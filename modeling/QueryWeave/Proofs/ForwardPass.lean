import QueryWeave.Proofs.Iteration

/-!
# One forward pass

The buffer grows and shrinks under the position of a run, but the lines behind that position never
do: they are the last lines of the input. Everything that a run reads as a directive therefore
stands in the input, it is read once, and what was written is not read again.

## Architecture

`ForwardAt` says what holds at one iteration: where the position stands in the buffer and in the
input, and what happens to a directive found there (`Handed`). One iteration preserves the part of
it that an induction needs (`Remains.advance`), and `single_forward_pass` collects all of it for
every iteration of every run, together with the end of the run.
-/

namespace QueryWeave

open Text

namespace Position

/-- The index in the input of the first line that a run has not looked at. -/
def inputLine (input : Document) (p : Position) : Nat := input.size - p.rest.length

/-- The lines from the position on are the ones not looked at. -/
theorem drop_line (p : Position) : p.document.lines.drop p.line = p.rest := by
  have hline : p.line = p.above.reverse.length := (List.length_reverse ..).symm
  rw [hline]
  exact List.drop_left

theorem line_behind (p : Position) (front rest : List Text) :
    (p.behind front rest).line = p.line + front.length := by
  simp only [line, behind, List.length_append, List.length_reverse]
  omega

/-- What a position does with a change is the replacement of a span of the buffer. -/
theorem apply_eq_passSplice (q : Position) (s : Splice) (indent : Nat) (output : Output) :
    s.apply q.document q.line indent =
      ((q.passSplice s indent output).document, (q.passSplice s indent output).line) := by
  have hline : q.line = q.above.reverse.length := (List.length_reverse ..).symm
  -- the buffer is cut at the position: above it nothing changes, and below it lines are removed
  have htake : q.document.lines.take q.line = q.above.reverse := by
    rw [hline]
    exact List.take_left
  have hdrop : q.document.lines.drop (q.line + s.removed) = q.rest.drop s.removed := by
    rw [← List.drop_drop, drop_line]
  simp only [Splice.apply, Document.replace, htake, hdrop]
  simp only [passSplice, document, line, Splice.written, List.reverse_append, List.reverse_reverse,
    List.length_append, List.length_reverse, List.length_map, Nat.add_comm]

end Position

namespace Run

variable {ω κ : Type} {b : Backend ω κ} {importer : Importer ω κ}

/-! ## The invariant -/

/-- The lines not looked at are the last lines of the input, and the document is of its kind. -/
structure Remains (input : Document) (kind : DocumentKind) (p : Position) : Prop where
  suffix : p.rest <:+ input.lines
  kind : p.output.kind = kind

namespace Remains

variable {input : Document} {kind : DocumentKind} {p q : Position}

/-- A run begins with all lines of its input. -/
theorem start (settings : Settings) (kind : DocumentKind) (name : Text) (input : Document) :
    Remains input kind (Run.start settings kind name input) where
  suffix := List.suffix_rfl
  kind := by
    cases kind with
    | latex => rfl
    | gnuplot => rfl

/-- An iteration looks at lines from their front on. -/
theorem advance {s t : Session ω κ} (h : Advance b importer p s q t)
    (hp : Remains input kind p) : Remains input kind q where
  suffix := h.rest_suffix.1.trans hp.suffix
  kind := h.kind_eq.trans hp.kind

/-- The lines not looked at are those of the input from some index on. -/
theorem drop_inputLine (h : Remains input kind p) :
    input.lines.drop (p.inputLine input) = p.rest ∧ p.inputLine input ≤ input.size := by
  obtain ⟨looked, hlines⟩ := h.suffix
  have hsize : p.inputLine input = looked.length := by
    simp only [Position.inputLine, Document.size, ← hlines, List.length_append]
    omega
  rw [hsize, ← hlines]
  refine ⟨List.drop_left, ?_⟩
  simp [Document.size, ← hlines]

/-- A directive that is due is a block of the input, with its first line. -/
theorem block?_of_due (hp : Remains input kind p) {d : Directive} (look : p.look = .due d q) :
    ∃ line block length, p.rest.head? = some line ∧
      input.get? (p.inputLine input) = some line ∧
      CommentStyle.isComment ⟨kind.marker⟩ line = true ∧
      input.block? ⟨kind.marker⟩ (p.inputLine input) = some block ∧
      block.classify = .directive (d.standingAt (p.inputLine input) length) := by
  obtain ⟨first, more, block, hrest, -, hcollect, hclass, -, hcomment, -⟩ := Position.look_due look
  obtain ⟨line, below, hlines, -, -, -, -, hagain⟩ := CommentStyle.collect?_eq_some hcollect
  have hcomments : p.output.comments = ⟨kind.marker⟩ := by rw [Output.comments, hp.kind]
  -- the block is read again at its place in the input
  have hinput := hagain (p.inputLine input) q.rest fun l hl => .inl hl
  rw [← hlines, hcomments] at hinput
  refine ⟨first, block.standingAt (p.inputLine input) (line :: below).length,
    (line :: below).length, by rw [hrest]; rfl, ?_, hcomments ▸ hcomment, ?_, ?_⟩
  · have hhead : input.lines[p.inputLine input]? = p.rest.head? := by
      rw [← hp.drop_inputLine.1, List.head?_drop]
    rw [Document.get?, hhead, hrest]
    rfl
  · rw [Document.block?, hp.drop_inputLine.1, hinput]
    rfl
  · rw [CommentBlock.classify_standingAt, hclass]

end Remains

/-- Later positions of a run have no more lines to look at than earlier ones. -/
theorem Reaches.rest_suffix {n : Nat} {p q : Position} {s t : Session ω κ}
    (h : Reaches b importer n p s q t) : q.rest <:+ p.rest := by
  apply h.invariant (fun r _ => r.rest <:+ p.rest) _ List.suffix_rfl
  intro p₁ s₁ p₂ s₂ hstep hp
  exact hstep.rest_suffix.1.trans hp

/-- What a run has not looked at yet is the rest of its input. -/
theorem Reaches.remains {settings : Settings} {kind : DocumentKind} {name : Text}
    {input : Document} {n : Nat} {p : Position} {s t : Session ω κ}
    (h : Reaches b importer n (start settings kind name input) s p t) : Remains input kind p :=
  h.invariant (fun p _ => Remains input kind p) (fun _ _ _ _ hstep hp => hp.advance hstep)
    (.start settings kind name input)

/-- Every iteration uses up a line of the input. -/
theorem Reaches.add_length_le {n : Nat} {p q : Position} {s t : Session ω κ}
    (h : Reaches b importer n p s q t) : n + q.rest.length ≤ p.rest.length := by
  induction h with
  | refl => exact Nat.le_of_eq (Nat.zero_add _)
  | step first _ ih =>
    have hlt := first.rest_suffix.2
    omega

/-! ## What happens to a directive -/

/-- What happens to a directive that is handed over at a position, with the next position behind
its comment. -/
structure Handed (b : Backend ω κ) (importer : Importer ω κ) (input : Document)
    (kind : DocumentKind) (p : Position) (t : Session ω κ) (d : Directive) (q : Position) :
    Prop where
  /-- It is the block that begins where the run stands in the input, -/
  block : ∃ block, CommentStyle.collect? ⟨kind.marker⟩ p.line
      (input.lines.drop (p.inputLine input)) =
        some (block, input.lines.drop (q.inputLine input)) ∧
    block.classify = .directive d
  /-- and takes one or more lines of the input. -/
  lines : p.inputLine input < q.inputLine input ∧ q.inputLine input ≤ input.size
  /-- Its change replaces a span of the buffer. -/
  span : ∀ splice output u, carryOut b importer d q.output q.rest t = .ok (splice, output) u →
    d.insertLine ≤ d.insertLine + splice.removed ∧
      d.insertLine + splice.removed ≤ q.document.size ∧
      q.document.replace d.insertLine (d.insertLine + splice.removed) d.indent splice.content =
        ((q.passSplice splice d.indent output).document,
          (q.passSplice splice d.indent output).line)
  /-- Later iterations find lines of the input that come after the comment. -/
  later : ∀ n r u, Reaches b importer (n + 1) p t r u → q.inputLine input ≤ r.inputLine input

/-- What holds at every iteration of a run. -/
structure ForwardAt (b : Backend ω κ) (importer : Importer ω κ) (input : Document)
    (kind : DocumentKind) (p : Position) (t : Session ω κ) : Prop where
  /-- The lines from the position on are the last lines of the input, -/
  scan : p.document.lines.drop p.line <:+ input.lines
  /-- and fewer after the next iteration. -/
  shorter : ∀ q u, Advance b importer p t q u →
    (q.document.lines.drop q.line).length < (p.document.lines.drop p.line).length
  handed : ∀ d q, p.look = .due d q → Handed b importer input kind p t d q

/-- An iteration after a directive was handed over finds lines after its comment. -/
private theorem rest_suffix_of_due {p q r : Position} {t u : Session ω κ} {d : Directive} {n : Nat}
    (hlook : p.look = .due d q) (h : Reaches b importer (n + 1) p t r u) :
    r.rest <:+ q.rest := by
  cases h with
  | step first later =>
    -- the first iteration is the one that carries the directive out
    apply later.rest_suffix.trans
    cases first with
    | passed look =>
      rw [hlook] at look
      cases look
    | carried look done =>
      rw [hlook] at look
      cases look
      exact List.drop_suffix ..

/-- A directive is handed over as a block of the input, above the span that it changes. -/
private theorem Remains.handed {input : Document} {kind : DocumentKind} {p q : Position}
    {t : Session ω κ} {d : Directive} (hp : Remains input kind p) (hlook : p.look = .due d q) :
    Handed b importer input kind p t d q := by
  obtain ⟨first, more, block, -, hq, hcollect, hclass, hplace, -⟩ := Position.look_due hlook
  have hbehind : Remains input kind q := {
    suffix := (Position.rest_of_due hlook).1.trans hp.suffix
    kind := by
      rw [hq]
      exact hp.kind }
  have hlength : q.rest.length < p.rest.length := (Position.rest_of_due hlook).2
  constructor
  case block =>
    have hcomments : p.output.comments = ⟨kind.marker⟩ := by
      rw [Output.comments, hp.kind]
    -- the block is collected from the lines at the position, and these are lines of the input
    rw [hp.drop_inputLine.1, hbehind.drop_inputLine.1, ← hcomments]
    exact ⟨block, hcollect, hclass⟩
  case lines =>
    have hsize := hp.suffix.length_le
    refine ⟨?_, hbehind.drop_inputLine.2⟩
    simp only [Position.inputLine, Document.size]
    omega
  case span =>
    intro splice output u hdone
    obtain ⟨m, -, hweave⟩ := carryOut_eq_ok.1 hdone
    have hline : d.insertLine = q.line := by
      rw [hplace, hq, Position.line_behind]
      rfl
    -- a handler counts no more old lines than there are
    have hremoved := Output.removed_le_of_weave hweave
    refine ⟨Nat.le_add_right .., ?_, ?_⟩
    · have hsize : q.document.size = q.line + q.rest.length := by
        simp [Document.size, Position.document, Position.line]
      omega
    · rw [hline]
      exact Position.apply_eq_passSplice q splice d.indent output
  case later =>
    intro n r u hreach
    have hsuffix := (rest_suffix_of_due hlook hreach).length_le
    simp only [Position.inputLine]
    omega

/-! ## Every run -/

/-- A run is a single forward pass, whatever the database answers: it ends after at most one
iteration for every line; at every iteration the lines from its position on are the last lines of
the input, and fewer than before; and a directive that it hands over is a block of the input that
comes after all blocks handed over before, and changes a span of the buffer that is there. -/
theorem single_forward_pass (b : Backend ω κ) (importer : Importer ω κ) (settings : Settings)
    (kind : DocumentKind) (name : Text) (input : Document) (s : Session ω κ) :
    (∃ n q t, n ≤ input.size ∧
      Reaches b importer n (start settings kind name input) s q t ∧
      Ends b importer q t (walk b importer (start settings kind name input) s)) ∧
    ∀ n p t, Reaches b importer n (start settings kind name input) s p t →
      ForwardAt b importer input kind p t := by
  constructor
  · obtain ⟨n, q, t, hreach, hend⟩ :=
      exists_ending b importer (start settings kind name input) s
    -- the lines that are left get fewer, so they bound the number of iterations
    have hle : n + q.rest.length ≤ input.size := hreach.add_length_le
    exact ⟨n, q, t, by omega, hreach, hend⟩
  · intro n p t hreach
    have hp : Remains input kind p :=
      hreach.invariant (fun p _ => Remains input kind p)
        (fun _ _ _ _ hstep hp => hp.advance hstep) (.start settings kind name input)
    constructor
    case scan =>
      rw [p.drop_line]
      exact hp.suffix
    case shorter =>
      intro q u hstep
      rw [p.drop_line, q.drop_line]
      exact hstep.rest_suffix.2
    case handed =>
      intro d q hlook
      exact hp.handed hlook

end Run

end QueryWeave
