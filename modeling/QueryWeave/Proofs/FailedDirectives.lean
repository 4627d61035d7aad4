import QueryWeave.Proofs.ForwardPass
import QueryWeave.Proofs.Following
import QueryWeave.Proofs.Idempotence

/-!
# Directives that fail

A directive can fail at many points, and by then the document may have grown or shrunk above it. But
every step that can fail comes before the change of the lines and of the data, so the document is
left as the directives before have made it, and the failure is located in these very lines.

Main statement: `Run.process_failure`.
-/

namespace QueryWeave

open Text

namespace Position

/-- The position behind a directive is in the same document, with the same output. -/
theorem document_of_due {p q : Position} {d : Directive} (h : p.look = .due d q) :
    q.document = p.document ∧ q.output = p.output := by
  obtain ⟨first, more, -, hrest, hq, -⟩ := look_due h
  have habove : q.above = (first :: more).reverse ++ p.above := by rw [hq]; rfl
  constructor
  · simp only [document]
    rw [habove, hrest, List.reverse_append, List.reverse_reverse, List.append_assoc]
  · rw [hq]
    rfl

/-- A directive begins where the position stands. -/
theorem startLine_of_due {p q : Position} {d : Directive} (h : p.look = .due d q) :
    d.startLine = p.line := by
  obtain ⟨first, more, block, -, -, -, -, hplace, -⟩ := look_due h
  rw [hplace]
  rfl

end Position

namespace Run

variable {ω κ : Type} {b : Backend ω κ} {importer : Importer ω κ}

/-- A directive that cannot write what it has fetched ends the run, and leaves the document as it
is. -/
theorem walk_unwritten {p q : Position} {d : Directive} {m : Material} {s t : Session ω κ}
    {e : ShapeFault} (look : p.look = .due d q)
    (fetched : Action.fetch b importer d (s.note (.began d)) = .ok m t)
    (unwritten : q.output.weave d m q.rest = .error e) :
    walk b importer p s = (⟨q, some (q.located d (.shape e))⟩, t) ∧ q.document = p.document := by
  have failed : carryOut b importer d q.output q.rest s = .error (.shape e) t := by
    rw [carryOut_eq]
    simp only [fetched, unwritten]
  exact ⟨walk_failed look failed, (Position.document_of_due look).1⟩

/-- A line of the buffer, given by its number and by its offset and size in bytes, is the first line
of a directive of the input. -/
structure Locates (input buffer : Document) (style : CommentStyle) (d : Directive)
    (number offset size : Nat) (text : Text) : Prop where
  /-- Lines are counted from one. -/
  number : number = d.startLine + 1
  line : buffer.get? d.startLine = some text
  bytes : (toUtf8 buffer.toText).extract offset (offset + size) = toUtf8 text
  size : size = (toUtf8 text).size
  input : ∃ i block length, input.get? i = some text ∧ input.block? style i = some block ∧
    block.classify = .directive (d.standingAt i length)

/-- A directive that is due is located at the first line of its comment. -/
theorem Remains.locates {input : Document} {kind : DocumentKind} {p q : Position}
    (hp : Remains input kind p) {d : Directive} (look : p.look = .due d q) (cause : Failure) :
    ∃ offset size line,
      q.located d cause = .directive d.keyword (d.startLine + 1) d.command offset size cause ∧
        Locates input q.document ⟨kind.marker⟩ d (d.startLine + 1) offset size line := by
  obtain ⟨line, block, length, hhead, hget, -, hblock, hclass⟩ := hp.block?_of_due look
  -- the line of the input is still the one that the position stands before
  have hline : q.document.get? d.startLine = some line := by
    rw [(Position.document_of_due look).1, Position.startLine_of_due look, Document.get?,
      ← List.head?_drop, p.drop_line, hhead]
  refine ⟨_, _, line, rfl, rfl, hline, ?_, ?_, _, block, length, hget, hblock, hclass⟩
  · rw [hline]
    exact Document.extract_byteOffset hline
  · rw [hline]
    exact (size_toUtf8 line).symm

/-- A run fails in three ways. The database can refuse to begin the transaction, and then nothing
happens, or to make the changes last, after everything was carried out. Otherwise it is a directive
that fails: the document and the output stay as the directives before have left them, nothing is
done after it except to abandon the transaction, and the failure tells where it stands. -/
theorem process_failure (b : Backend ω κ) (importer : Importer ω κ) (settings : Settings)
    (kind : DocumentKind) (name : Text) (input : Document) (s : Session ω κ) {e : Failure}
    (he : (process b importer settings kind name input s).1.failure = some e) :
    let first := start settings kind name input
    let run := process b importer settings kind name input s
    Action.startTransaction b s = .error e run.2 ∧ run.1.position = first ∨
    (∃ t u, Action.startTransaction b s = .ok () t ∧
      walk b importer first t = (⟨run.1.position, none⟩, u) ∧
      Action.commit b u = .error e run.2) ∨
    ∃ n t p u d q v cause, Action.startTransaction b s = .ok () t ∧
      Reaches b importer n first t p u ∧ p.look = .due d q ∧
      carryOut b importer d q.output q.rest u = .error cause v ∧
      Action.abandon b v = .ok () run.2 ∧
      (importer.Confined → run.2.begun = u.begun ++ [d.command]) ∧
      run.1.position.document = p.document ∧ run.1.position.output = p.output ∧
      ∃ offset size line,
        e = .directive d.keyword (d.startLine + 1) d.command offset size cause ∧
        Locates input run.1.position.document ⟨kind.marker⟩ d (d.startLine + 1) offset size
          line := by
  intro first run
  have hcourse := process_course b importer settings kind name input s
  generalize hrun : process b importer settings kind name input s = result at he hcourse
  have hresult : run = result := hrun
  rw [hresult]
  cases hcourse with
  | refused opened =>
    cases he
    exact .inl ⟨opened, rfl⟩
  | lasting => cases he
  | unlasting opened walked closed =>
    cases he
    exact .inr (.inl ⟨_, _, opened, walked, closed⟩)
  | abandoned opened walked closed =>
    cases he
    right
    right
    obtain ⟨n, p, u, hreach, hend⟩ := exists_ending b importer first _
    rw [walked] at hend
    cases hend with
    | failed look failed =>
      obtain ⟨hdocument, houtput⟩ := Position.document_of_due look
      exact ⟨n, _, p, u, _, _, _, _, opened, hreach, look, failed, closed,
        fun hi => ((Action.confined_abandon b).begun_of_ok closed).trans
          ((begun_of_carryOut hi).2 _ failed), hdocument, houtput, hreach.remains.locates look _⟩

/-- A second directive fails, below the table that the first one has written. -/
theorem process_failure_below_table :
    let input : Document := ⟨["% TABTABLE SELECT c FROM t".toList, "Results".toList,
      "  % PLOT SELECT x FROM u".toList]⟩
    let s := Rehearsal.session [.result ["c".toList] [[some "é".toList], [none]] none,
      .refusal "no such table: u".toList]
    let run := process Rehearsal.backend (Importer.resultLines Rehearsal.backend) {} .latex
      "paper".toList input s
    ∃ d text, run.2.begun = ["TABTABLE SELECT c FROM t".toList, d.command] ∧
      Locates input run.1.position.document ⟨'%'⟩ d 6 71 24 text := by
  intro input s run
  have he : run.1.failure = some (.directive .plot 6 "PLOT SELECT x FROM u".toList 71 24
      (.query "SELECT x FROM u".toList "no such table: u".toList)) := by decide +kernel
  have hopen : Action.startTransaction Rehearsal.backend s =
      .ok () (s.note (.executed "BEGIN TRANSACTION".toList true)) := rfl
  have hbegun : run.2.begun =
      ["TABTABLE SELECT c FROM t".toList, "PLOT SELECT x FROM u".toList] := by decide +kernel
  rcases process_failure Rehearsal.backend (Importer.resultLines Rehearsal.backend) {} .latex
      "paper".toList input s he with
    ⟨hrefused, -⟩ | ⟨t, u, hopen', hwalk, -⟩ |
    ⟨n, t, p, u, d, q, v, cause, -, -, -, -, -, -, -, -, offset, size, text, hfailure, hlocates⟩
  · rw [hopen] at hrefused
    cases hrefused
  · rw [hopen] at hopen'
    cases hopen'
    have hfails : (walk Rehearsal.backend (Importer.resultLines Rehearsal.backend)
        (start {} .latex "paper".toList input)
        (s.note (.executed "BEGIN TRANSACTION".toList true))).1.failure.isSome = true := by
      decide +kernel
    rw [hwalk] at hfails
    cases hfails
  · simp only [Failure.directive.injEq] at hfailure
    obtain ⟨-, hnumber, hcommand, rfl, rfl, -⟩ := hfailure
    refine ⟨d, text, ?_, ?_⟩
    · rw [hbegun, hcommand]
    · rw [hnumber]
      exact hlocates

end Run

end QueryWeave
