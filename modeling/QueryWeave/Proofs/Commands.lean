import QueryWeave.Proofs.Following
import QueryWeave.Proofs.Idempotence

/-!
# The commands of a later run

A run carries out the comments of its document and nothing else. Its output holds the same comments
and, between them, texts from a database; a later run must not take these texts for directives. Two
things can go wrong. A row of a table can be a comment itself; then the later run goes through the
old rows, and carries out those that are directives. And a directive that leaves no line behind can
be joined by the comment below it. Where neither happens, the later run begins the same directives
in the same order, whether they succeed or not.

Main statements: `Run.process_same_commands`, `Run.process_begins_row`.
-/

namespace QueryWeave

open Text

namespace Run

variable {ω κ : Type} {b : Backend ω κ} {importer : Importer ω κ}

/-! ## Two runs -/

/-- A later run that follows a run begins the same directives in the same order, if no directives
are among the lines that were written. -/
theorem walk_same_commands (hi : importer.Confined) (p p' : Position) (s s' : Session ω κ)
    (hapart : ∀ q d r splice, Writes b importer p s q d r splice →
      splice.Apart r.output.comments q.rest r.rest d.indent)
    (hundirected : ∀ q d r splice, Writes b importer p s q d r splice →
      r.output.comments.Undirected (splice.written d.indent))
    (h : Follows b importer [] p s p' s') :
    ∃ commands, (walk b importer p s).2.begun = s.begun ++ commands ∧
      (walk b importer p' s').2.begun = s'.begun ++ commands := by
  induction p, s using run_induction b importer generalizing p' s' with
  | nothing p s hlook =>
    obtain ⟨below, hrest, hskip⟩ := h.rest
    -- no comments are left for the later run either
    obtain ⟨q, t, hq⟩ := walk_skip b importer p' s'
    have hend : q.look = .nothing := by
      rw [Position.look_eq_nothing, hq.rest, h.output, hrest, List.nil_append, hskip,
        woven_nothing hlook]
      rfl
    refine ⟨[], by rw [walk_nothing hlook, List.append_nil], ?_⟩
    rw [hq.walk, walk_nothing hend, List.append_nil]
    exact hq.begun
  | passed p s q w hlook ih =>
    obtain ⟨r, t, hwalk, hbegun, hfollows⟩ := h.passed hlook
    obtain ⟨commands, hone, htwo⟩ := ih r t
      (fun q' d r' splice hw => hapart q' d r' splice (hw.step (.passed hlook)))
      (fun q' d r' splice hw => hundirected q' d r' splice (hw.step (.passed hlook))) hfollows
    refine ⟨commands, ?_, by rw [hwalk, htwo, hbegun]⟩
    rw [walk_passed hlook, ← s.begun_told w]
    exact hone
  | failed p s q d e t hlook hfail =>
    refine ⟨[d.command], ?_, h.failed hi hlook hfail⟩
    rw [walk_failed hlook hfail]
    exact (begun_of_carryOut hi).2 e hfail
  | carried p s q d splice output t hlook hdone ih =>
    have hwrites : Writes b importer p s p d q splice := .here hlook hdone
    obtain ⟨left, r, u, hwalk, hbegun, hleft, hfollows⟩ := h.begin_again hi hlook hdone
      (hapart p d q splice hwrites)
    have hcomments : (q.passSplice splice d.indent output).output.comments =
        q.output.comments := comments_of_carryOut hdone
    -- what is left of the lines is passed, and then the later run follows again
    obtain ⟨r', u', hwalk', hbegun', hfollows'⟩ := hfollows.resume
      (hcomments ▸ hleft.undirected_iff.2 (hundirected p d q splice hwrites))
      (hcomments ▸ hleft.last)
    obtain ⟨commands, hone, htwo⟩ := ih r' u'
      (fun q' d' r' splice' hw => hapart q' d' r' splice' (hw.step (.carried hlook hdone)))
      (fun q' d' r' splice' hw => hundirected q' d' r' splice' (hw.step (.carried hlook hdone)))
      hfollows'
    refine ⟨d.command :: commands, ?_, ?_⟩
    · rw [walk_carried hlook hdone, hone, (begun_of_carryOut hi).1 _ hdone, List.append_assoc]
      rfl
    · rw [hwalk, hwalk', htwo, hbegun', hbegun, List.append_assoc]
      rfl

/-- A later run that follows a run begins a directive from the lines that were written, if there is
one. Up to there it begins the directives of the run. -/
theorem walk_begins_row (hi : importer.Confined) (p p' : Position) (s s' : Session ω κ)
    (hapart : ∀ q d r splice, Writes b importer p s q d r splice →
      splice.Apart r.output.comments q.rest r.rest d.indent)
    (hranges : ∀ q d r splice, Writes b importer p s q d r splice →
      ∀ text ∈ r.output.comments.remarks (splice.written d.indent),
        Keyword.ofComment? text ≠ some .range)
    (hdirected : ∃ q d r splice, Writes b importer p s q d r splice ∧
      ¬ r.output.comments.Undirected (splice.written d.indent))
    (h : Follows b importer [] p s p' s') :
    ∃ before text post post', (walk b importer p s).2.begun = s.begun ++ (before ++ post) ∧
      (walk b importer p' s').2.begun = s'.begun ++ (before ++ text :: post') ∧
      (Keyword.ofComment? text).isSome = true ∧
      ∃ q d r splice, Writes b importer p s q d r splice ∧
        text ∈ r.output.comments.remarks (splice.written d.indent) := by
  induction p, s using run_induction b importer generalizing p' s' with
  | nothing p s hlook =>
    obtain ⟨q, d, r, splice, hw, -⟩ := hdirected
    exact absurd hlook hw.look_ne_nothing
  | passed p s q w hlook ih =>
    obtain ⟨r, t, hwalk, hbegun, hfollows⟩ := h.passed hlook
    obtain ⟨q', d, r', splice, hw, hnot⟩ := hdirected
    obtain ⟨before, text, post, post', hone, htwo, hkeyword, q', d, r', splice, hw, htext⟩ := ih r t
      (fun q' d r' splice hw => hapart q' d r' splice (hw.step (.passed hlook)))
      (fun q' d r' splice hw => hranges q' d r' splice (hw.step (.passed hlook)))
      ⟨q', d, r', splice, hw.of_passed hlook, hnot⟩ hfollows
    refine ⟨before, text, post, post', ?_, by rw [hwalk, htwo, hbegun], hkeyword, q', d, r', splice,
      hw.step (.passed hlook), htext⟩
    rw [walk_passed hlook, ← s.begun_told w]
    exact hone
  | failed p s q d e t hlook hfail =>
    obtain ⟨q', d', r, splice, hw, -⟩ := hdirected
    obtain ⟨splice', output, u, hdone, -⟩ := hw.of_due hlook
    rw [hfail] at hdone
    cases hdone
  | carried p s q d splice output t hlook hdone ih =>
    have hwrites : Writes b importer p s p d q splice := .here hlook hdone
    obtain ⟨left, r, u, hwalk, hbegun, hleft, hfollows⟩ := h.begin_again hi hlook hdone
      (hapart p d q splice hwrites)
    have hcomments : (q.passSplice splice d.indent output).output.comments =
        q.output.comments := comments_of_carryOut hdone
    by_cases hundirected : q.output.comments.Undirected (splice.written d.indent)
    · -- the lines of this directive are passed, so those of a later one are not
      obtain ⟨q', d', r', splice', hw, hnot⟩ := hdirected
      have hlater : Writes b importer (q.passSplice splice d.indent output) t q' d' r' splice' := by
        obtain ⟨splice'', output', t', hdone', hw'⟩ := hw.of_due hlook
        rw [hdone] at hdone'
        cases hdone'
        rcases hw' with ⟨-, rfl, rfl, rfl⟩ | hw'
        · exact absurd hundirected hnot
        · exact hw'
      obtain ⟨v, v', hwalk', hbegun', hfollows'⟩ := hfollows.resume
        (hcomments ▸ hleft.undirected_iff.2 hundirected) (hcomments ▸ hleft.last)
      obtain ⟨before, text, post, post', hone, htwo, hkeyword, q', d', r', splice', hw, htext⟩ :=
        ih v v'
          (fun q' d' r' splice' hw => hapart q' d' r' splice' (hw.step (.carried hlook hdone)))
          (fun q' d' r' splice' hw => hranges q' d' r' splice' (hw.step (.carried hlook hdone)))
          ⟨q', d', r', splice', hlater, hnot⟩ hfollows'
      refine ⟨d.command :: before, text, post, post', ?_, ?_, hkeyword, q', d', r', splice',
        hw.step (.carried hlook hdone), htext⟩
      · rw [walk_carried hlook hdone, hone, (begun_of_carryOut hi).1 _ hdone, List.append_assoc]
        rfl
      · rw [hwalk, hwalk', htwo, hbegun', hbegun, List.append_assoc]
        rfl
    · -- the later run begins a directive from what is left of the lines of this one
      obtain ⟨post, hone⟩ := begun_of_due (b := b) hi s hlook
      obtain ⟨first, more, -, -, hq, -, -, -, -, -, hactive, -⟩ := Position.look_due hlook
      have hgate : (q.passSplice splice d.indent output).gate.active = true := by
        show q.gate.active = true
        rw [hq]
        exact hactive
      obtain ⟨text, post', htext, hkeyword, htwo⟩ := hfollows.directed hi hgate
        (fun text htext =>
          hranges p d q splice hwrites text (hleft.mem_remarks (hcomments ▸ htext)))
        (fun hnone => hundirected (hleft.undirected_iff.1 (hcomments ▸ hnone)))
        (hcomments ▸ hleft.last)
      refine ⟨[d.command], text, post, post', hone, ?_, hkeyword, p, d, q, splice, hwrites,
        hleft.mem_remarks (hcomments ▸ htext)⟩
      rw [hwalk, htwo, hbegun, List.append_assoc]

/-! ## Whole documents -/

/-- A directive among the comments of a document is one of its blocks. -/
theorem IsCommand.exists_block? {style : CommentStyle} {lines : List Text} {text : Text}
    (h : IsCommand style lines text) :
    ∃ i block, (Document.mk lines).block? style i = some block ∧ block.text = text := by
  -- the block is read at the number of the lines above it
  obtain ⟨rest, ⟨front, rfl⟩, start, block, after, hcollect, htext⟩ := h.block
  obtain ⟨first, more, hlines, -, -, -, -, hagain⟩ := CommentStyle.collect?_eq_some hcollect
  have hcollect' := hagain front.length after fun line hline => .inl hline
  rw [← hlines] at hcollect'
  refine ⟨front.length, block.standingAt front.length (first :: more).length, ?_, htext⟩
  simp only [Document.block?, List.drop_left, hcollect', Option.map_some]

/-- What a run begins is decided inside of its transaction. -/
private theorem begun_process {settings : Settings} {kind : DocumentKind} {name : Text}
    {input : Document} {s t : Session ω κ} (h : Action.startTransaction b s = .ok () t) :
    (process b importer settings kind name input s).2.begun =
      (walk b importer (start settings kind name input) t).2.begun := by
  generalize hrun : process b importer settings kind name input s = run
  have hcourse := process_course b importer settings kind name input s
  rw [hrun] at hcourse
  -- neither the end of the transaction nor its undoing begins a directive
  cases hcourse with
  | refused opened =>
    rw [h] at opened
    cases opened
  | lasting opened walked closed =>
    rw [h] at opened
    cases opened
    rw [walked]
    exact (Action.confined_execute b _).begun_of_ok closed
  | unlasting opened walked closed =>
    rw [h] at opened
    cases opened
    rw [walked]
    exact (Action.confined_execute b _).begun_of_error closed
  | abandoned opened walked closed =>
    rw [h] at opened
    cases opened
    rw [walked]
    exact (Action.confined_abandon b).begun_of_ok closed

/-- A later run over the document that a run leaves follows it from the start. -/
private theorem follows_start {settings : Settings} {kind : DocumentKind} {name : Text}
    {input : Document} {s t t' : Session ω κ} (ht : Action.startTransaction b s = .ok () t)
    (halike : t.Alike t') :
    Follows b importer [] (start settings kind name input) t
      (start settings kind name
        (process b importer settings kind name input s).1.position.document) t' := by
  refine ⟨rfl, rfl, ⟨_, rfl, ?_⟩, halike⟩
  have hlines : (process b importer settings kind name input s).1.position.document.lines =
      woven b importer (start settings kind name input) t := by
    rw [position_process ht, walk_document b importer]
    rfl
  rw [← hlines]
  rfl

/-- In the run of a document, the directive `d` at the position `q` makes the change `splice` of the
lines of the position `r`. -/
def Changes (b : Backend ω κ) (importer : Importer ω κ) (settings : Settings) (kind : DocumentKind)
    (name : Text) (input : Document) (s : Session ω κ) (q : Position) (d : Directive)
    (r : Position) (splice : Splice) : Prop :=
  ∃ t, Action.startTransaction b s = .ok () t ∧
    Writes b importer (start settings kind name input) t q d r splice

/-- What is changed in the run of a document is among what is fetched and written. -/
theorem Changes.mem_fetchedBy {settings : Settings} {kind : DocumentKind} {name : Text}
    {input : Document} {s : Session ω κ} {q r : Position} {d : Directive} {splice : Splice}
    (h : Changes b importer settings kind name input s q d r splice) :
    ∃ m output, (q, d, r, m) ∈ fetchedBy b importer settings kind name input s ∧
      r.output.weave d m r.rest = .ok (splice, output) := by
  obtain ⟨t, hstart, m, output, hobtains, hweave⟩ := h
  exact ⟨m, output, Fetches.mem_fetchedBy ⟨t, hstart, hobtains⟩, hweave⟩

variable {settings : Settings} {kind : DocumentKind} {name : Text} {input : Document}
  {s s' : Session ω κ}

/-- If the lines that a run writes have no directives, a later run over its document begins the same
directives in the same order, whether the runs succeed or not. All of them are comments of the
document. -/
theorem process_same_commands (hi : importer.Confined) (hs : s.Alike s')
    (hapart : ∀ q d r splice, Changes b importer settings kind name input s q d r splice →
      splice.Apart r.output.comments q.rest r.rest d.indent)
    (hundirected : ∀ q d r splice, Changes b importer settings kind name input s q d r splice →
      r.output.comments.Undirected (splice.written d.indent)) :
    ∃ commands, (process b importer settings kind name input s).2.begun = s.begun ++ commands ∧
      (process b importer settings kind name
        (process b importer settings kind name input s).1.position.document s').2.begun =
          s'.begun ++ commands ∧
      ∀ c ∈ commands, IsCommand ⟨kind.marker⟩ input.lines c := by
  obtain ⟨x, t, t', ht, ht', halike, hbegun, hbegun'⟩ :=
    Action.confined_execute b "BEGIN TRANSACTION" s s' hs
  cases x with
  | error e =>
    -- without a transaction nothing is begun
    have hfail : ∀ (d : Document) (u v : Session ω κ),
        Action.startTransaction b u = .error e v →
          (process b importer settings kind name d u).2 = v := by
      intro d u v hu
      unfold process
      simp only [hu]
    refine ⟨[], ?_, ?_, fun c hc => absurd hc List.not_mem_nil⟩
    · rw [hfail _ _ _ ht, List.append_nil, hbegun]
    · rw [hfail _ _ _ ht', List.append_nil, hbegun']
  | ok a =>
    let p := start settings kind name input
    obtain ⟨commands, hone, htwo⟩ := walk_same_commands hi p _ t t'
      (fun q d r splice hw => hapart q d r splice ⟨t, ht, hw⟩)
      (fun q d r splice hw => hundirected q d r splice ⟨t, ht, hw⟩) (follows_start ht halike)
    obtain ⟨commands', hone', hcommands⟩ := walk_begun hi p t
    obtain rfl : commands' = commands := List.append_cancel_left (hone'.symm.trans hone)
    have hcomments : p.output.comments = ⟨kind.marker⟩ := by
      cases kind with
      | latex => rfl
      | gnuplot => rfl
    refine ⟨commands', ?_, ?_, fun c hc => hcomments ▸ hcommands c hc⟩
    · rw [begun_process ht, hone, hbegun]
    · rw [begun_process ht', htwo, hbegun']

/-- If the lines that a run writes have a directive, the later run begins one from these lines. Up
to there it begins the directives of the document. -/
theorem process_begins_row (hi : importer.Confined) (hs : s.Alike s')
    (hapart : ∀ q d r splice, Changes b importer settings kind name input s q d r splice →
      splice.Apart r.output.comments q.rest r.rest d.indent)
    (hranges : ∀ q d r splice, Changes b importer settings kind name input s q d r splice →
      ∀ text ∈ r.output.comments.remarks (splice.written d.indent),
        Keyword.ofComment? text ≠ some .range)
    (hdirected : ∃ q d r splice, Changes b importer settings kind name input s q d r splice ∧
      ¬ r.output.comments.Undirected (splice.written d.indent)) :
    ∃ before text post post',
      (process b importer settings kind name input s).2.begun = s.begun ++ (before ++ post) ∧
      (process b importer settings kind name
        (process b importer settings kind name input s).1.position.document s').2.begun =
          s'.begun ++ (before ++ text :: post') ∧
      (Keyword.ofComment? text).isSome = true ∧
      ∃ q d r splice, Changes b importer settings kind name input s q d r splice ∧
        text ∈ r.output.comments.remarks (splice.written d.indent) := by
  obtain ⟨q, d, r, splice, ⟨t, ht, hw⟩, hnot⟩ := hdirected
  obtain ⟨x, u, t', hu, ht', halike, hbegun, hbegun'⟩ :=
    Action.confined_execute b "BEGIN TRANSACTION" s s' hs
  -- something was written, so the transaction was opened
  have hsame : Action.outcome x u = .ok () t := hu.symm.trans ht
  cases x with
  | error e => cases hsame
  | ok a =>
    cases hsame
    obtain ⟨before, text, post, post', hone, htwo, hkeyword, q, d, r, splice, hw, htext⟩ :=
      walk_begins_row hi (start settings kind name input) _ t t'
        (fun q d r splice hw => hapart q d r splice ⟨t, ht, hw⟩)
        (fun q d r splice hw => hranges q d r splice ⟨t, ht, hw⟩) ⟨q, d, r, splice, hw, hnot⟩
        (follows_start ht halike)
    refine ⟨before, text, post, post', ?_, ?_, hkeyword, q, d, r, splice, ⟨t, ht, hw⟩, htext⟩
    · rw [begun_process ht, hone, hbegun]
    · rw [begun_process ht', htwo, hbegun']

/-- A later run over what a run has made of its document, from an equal database, begins the same
directives in the same order, none of which was written by the run, exactly if the lines that the
run writes have no directives. This holds whether the runs succeed or not, as long as no line that
is written is about a range, and none joins the comment of its directive. -/
theorem process_commands_iff (b : Backend ω κ) (importer : Importer ω κ) (hi : importer.Confined)
    (settings : Settings) (kind : DocumentKind) (name : Text) (input : Document)
    (s s' : Session ω κ) (hs : s.Alike s')
    (hapart : ∀ q d r splice, Changes b importer settings kind name input s q d r splice →
      splice.Apart r.output.comments q.rest r.rest d.indent)
    (hranges : ∀ q d r splice, Changes b importer settings kind name input s q d r splice →
      ∀ text ∈ r.output.comments.remarks (splice.written d.indent),
        Keyword.ofComment? text ≠ some .range) :
    let first := process b importer settings kind name input s
    let again := process b importer settings kind name first.1.position.document s'
    (∃ commands, first.2.begun = s.begun ++ commands ∧ again.2.begun = s'.begun ++ commands ∧
      ∀ c ∈ commands,
        (∃ i block, input.block? ⟨kind.marker⟩ i = some block ∧ block.text = c) ∧
        ∀ q d r splice, Changes b importer settings kind name input s q d r splice →
          c ∉ r.output.comments.remarks (splice.written d.indent)) ↔
      ∀ q d r splice, Changes b importer settings kind name input s q d r splice →
        r.output.comments.Undirected (splice.written d.indent) := by
  intro first again
  constructor
  · rintro ⟨commands, -, hagain, hcommands⟩ q d r splice hchange
    apply Decidable.byContradiction
    intro hnot
    obtain ⟨before, text, post, post', -, htwo, -, q', d', r', splice', hchange', htext⟩ :=
      process_begins_row hi hs hapart hranges ⟨q, d, r, splice, hchange, hnot⟩
    have hsame : commands = before ++ text :: post' :=
      List.append_cancel_left (hagain.symm.trans htwo)
    have hmem : text ∈ commands := by
      rw [hsame]
      exact List.mem_append_right _ (List.mem_cons_self ..)
    exact (hcommands text hmem).2 q' d' r' splice' hchange' htext
  · intro hundirected
    obtain ⟨commands, hone, htwo, hcommands⟩ := process_same_commands hi hs hapart hundirected
    refine ⟨commands, hone, htwo, fun c hc => ⟨(hcommands c hc).exists_block?, ?_⟩⟩
    intro q d r splice hchange hmem
    exact (hcommands c hc).keyword (hundirected q d r splice hchange c hmem)

/-- A row that is a comment, but no directive. -/
theorem process_commands_iff_remark :
    let input : Document := ⟨["% SQL CREATE TABLE t (c)".toList,
      "% TABTABLE SELECT c FROM t".toList, "% PLOT SELECT x, y FROM u".toList]⟩
    let s := Rehearsal.session [
      .result ["c".toList] [[some "% see below".toList], [some "a".toList]] none,
      .result ["x".toList, "y".toList] [[some "1".toList, some "2".toList]] none]
    let run := process Rehearsal.backend (Importer.resultLines Rehearsal.backend) {} .latex
      "paper".toList
    ∃ commands, (run input s).2.begun = s.begun ++ commands ∧
      (run (run input s).1.position.document s).2.begun = s.begun ++ commands ∧
      ∀ c ∈ commands, ∃ i block, input.block? ⟨'%'⟩ i = some block ∧ block.text = c := by
  intro input s run
  have hchecked : ∀ x ∈ fetchedBy Rehearsal.backend (Importer.resultLines Rehearsal.backend) {}
      .latex "paper".toList input s, ∀ change ∈ (x.2.2.1.output.weave x.2.1 x.2.2.2
        x.2.2.1.rest).toOption,
      change.1.Apart x.2.2.1.output.comments x.1.rest x.2.2.1.rest x.2.1.indent ∧
        x.2.2.1.output.comments.Undirected (change.1.written x.2.1.indent) := by decide +kernel
  have holds : ∀ q d r splice, Changes Rehearsal.backend (Importer.resultLines Rehearsal.backend) {}
      .latex "paper".toList input s q d r splice →
      splice.Apart r.output.comments q.rest r.rest d.indent ∧
        r.output.comments.Undirected (splice.written d.indent) := by
    intro q d r splice h
    obtain ⟨m, output, hmem, hweave⟩ := h.mem_fetchedBy
    exact hchecked _ hmem (splice, output) (by rw [hweave]; rfl)
  have hranges : ∀ q d r splice, Changes Rehearsal.backend
      (Importer.resultLines Rehearsal.backend) {} .latex "paper".toList input s q d r splice →
      ∀ text ∈ r.output.comments.remarks (splice.written d.indent),
        Keyword.ofComment? text ≠ some .range := by
    intro q d r splice h text htext hrange
    have hnone := (holds q d r splice h).2 text htext
    rw [hrange] at hnone
    cases hnone
  obtain ⟨commands, hone, htwo, hcommands⟩ := (process_commands_iff Rehearsal.backend _
    (Importer.confined_resultLines _) {} .latex "paper".toList input s s (.refl s)
    (fun q d r splice h => (holds q d r splice h).1) hranges).2
    fun q d r splice h => (holds q d r splice h).2
  exact ⟨commands, hone, htwo, fun c hc => (hcommands c hc).1⟩

/-- A row that is a directive is carried out by the next run: the search for the end marker of the
table has stopped at it. -/
theorem row_begun_by_later_run :
    let input : Document := ⟨["% TABTABLE SELECT 1".toList]⟩
    let s := Rehearsal.session [.result ["c".toList] [[some "% SQL DROP TABLE t".toList]] none]
    let run := process Rehearsal.backend (Importer.resultLines Rehearsal.backend) {} .latex
      "doc".toList
    (run input s).2.begun = ["TABTABLE SELECT 1".toList] ∧
      (run (run input s).1.position.document s).2.begun =
        ["TABTABLE SELECT 1".toList, "SQL DROP TABLE t".toList] := by
  intro input s run
  constructor
  · decide +kernel
  · decide +kernel

end Run

end QueryWeave
