import QueryWeave.Engine.Run
import QueryWeave.Proofs.Comments
import QueryWeave.Proofs.Splicing

/-!
# Iterations of a run

A run is a loop. This module takes one iteration of it apart: what a position *looks* at
(`Position.look`), what the loop does with it (`Run.walk_eq`), and which position comes next
(`Run.Advance`). Everything that is proved about whole runs goes through these three, so that no
later proof opens the loop again.

Main statements: an iteration moves the lines it has looked at, and no others, behind the position
(`Position.look_passed`, `Position.look_due`), and a run ends at a position that its iterations
reach (`Run.exists_ending`).
-/

namespace QueryWeave

open Text

/-! ## What a position looks at -/

/-- What stands at a position. -/
inductive Sight
  /-- There are no more lines. -/
  | nothing
  /-- Lines that are passed without a directive being carried out; perhaps with a warning. -/
  | passed (next : Position) (warning : Option Warning)
  /-- A directive that is carried out, and the position behind its comment. -/
  | due (d : Directive) (behind : Position)

namespace Position

/-- What a block means at the position behind it. -/
def judge (q : Position) (block : CommentBlock) : Sight :=
  match block.classify with
  | .plain => .passed q none
  | .unknown word => .passed q (some (.unknownKeyword (block.start + 1) word))
  | .directive d =>
    if d.keyword = .range then
      .passed { q with gate := (q.gate.apply d.body).1 } ((q.gate.apply d.body).2.map .range)
    else if q.gate.active then .due d q
    else .passed q none

/-- What stands at a position. -/
def look (p : Position) : Sight :=
  match p.rest with
  | [] => .nothing
  | line :: rest =>
    match p.output.comments.collect? p.line (line :: rest) with
    | none => .passed (p.pass line rest) none
    | some (block, after) => (p.passBlock block after).judge block

end Position

/-- The session after a warning, if there is one. -/
def Session.told {ω κ : Type} (s : Session ω κ) : Option Warning → Session ω κ
  | some w => s.note (.warned w)
  | none => s

/-! ## One iteration -/

namespace Run

variable {ω κ : Type} {b : Backend ω κ} {importer : Importer ω κ}

/-- One iteration: what the run does with what it looks at. -/
theorem walk_eq (p : Position) (s : Session ω κ) :
    walk b importer p s =
      match p.look with
      | .nothing => (⟨p, none⟩, s)
      | .passed q w => walk b importer q (s.told w)
      | .due d q =>
        match carryOut b importer d q.output q.rest s with
        | .ok (splice, output) t => walk b importer (q.passSplice splice d.indent output) t
        | .error e t => (⟨q, some (q.located d e)⟩, t) := by
  rw [walk]
  split
  · next hp => simp only [Position.look, hp]
  · next line rest hp =>
    simp only [Position.look, hp]
    split
    · next hc => simp only [hc, Session.told]
    · next block after hc =>
      -- both sides now decide by what the block means
      simp only [hc, Position.judge]
      cases hclass : block.classify with
      | plain => simp only [Session.told]
      | unknown word => simp only [Session.told]
      | directive d =>
        dsimp only
        split
        · -- the warning of a range is told in the same way whether there is one or not
          generalize RangeGate.apply _ _ = r
          rcases r with ⟨gate, _ | w⟩ <;> rfl
        · split
          · rfl
          · rfl

section Steps

variable {p q : Position} {s t : Session ω κ} {d : Directive}

theorem walk_nothing (look : p.look = .nothing) (s : Session ω κ) :
    walk b importer p s = (⟨p, none⟩, s) := by
  rw [walk_eq, look]

theorem walk_passed {w : Option Warning} (look : p.look = .passed q w) (s : Session ω κ) :
    walk b importer p s = walk b importer q (s.told w) := by
  rw [walk_eq, look]

theorem walk_carried {splice : Splice} {output : Output} (look : p.look = .due d q)
    (done : carryOut b importer d q.output q.rest s = .ok (splice, output) t) :
    walk b importer p s = walk b importer (q.passSplice splice d.indent output) t := by
  rw [walk_eq, look]
  simp only [done]

theorem walk_failed {e : Failure} (look : p.look = .due d q)
    (failed : carryOut b importer d q.output q.rest s = .error e t) :
    walk b importer p s = (⟨q, some (q.located d e)⟩, t) := by
  rw [walk_eq, look]
  simp only [failed]

end Steps

/-- A directive is carried out by fetching its material, and then writing it. Only the first step
sees the session, and only the second one sees the lines. -/
theorem carryOut_eq (d : Directive) (output : Output) (lines : List Text) (s : Session ω κ) :
    carryOut b importer d output lines s =
      match Action.fetch b importer d (s.note (.began d)) with
      | .error e t => .error e t
      | .ok m t =>
        match output.weave d m lines with
        | .error e => .error (.shape e) t
        | .ok r => .ok r t := by
  -- that the directive is begun is noted first
  have hbegan : (Action.note (.began d) : Action ω κ Unit) s = .ok () (s.note (.began d)) := rfl
  simp only [carryOut, bind, EStateM.bind, hbegan]
  cases Action.fetch b importer d (s.note (.began d)) with
  | error e t => rfl
  | ok m t =>
    cases hweave : output.weave d m lines with
    | error e => simp only [hweave]; rfl
    | ok r => simp only [hweave]; rfl

/-- What was carried out was fetched and written. -/
theorem carryOut_eq_ok {d : Directive} {o output : Output} {lines : List Text} {s t : Session ω κ}
    {splice : Splice} :
    carryOut b importer d o lines s = .ok (splice, output) t ↔
      ∃ m, Action.fetch b importer d (s.note (.began d)) = .ok m t ∧
        o.weave d m lines = .ok (splice, output) := by
  rw [carryOut_eq]
  cases Action.fetch b importer d (s.note (.began d)) with
  | error e u => simp
  | ok m u =>
    simp only [EStateM.Result.ok.injEq]
    cases hweave : o.weave d m lines with
    | error e =>
      constructor
      · intro h
        cases h
      · rintro ⟨_, ⟨rfl, -⟩, h⟩
        rw [hweave] at h
        cases h
    | ok r =>
      constructor
      · intro h
        cases h
        exact ⟨m, ⟨rfl, rfl⟩, hweave⟩
      · rintro ⟨_, ⟨rfl, rfl⟩, h⟩
        rw [hweave] at h
        cases h
        rfl

/-- To carry out a directive leaves the comments of the document what they are. -/
theorem comments_of_carryOut {d : Directive} {o output : Output} {lines : List Text}
    {s t : Session ω κ} {splice : Splice}
    (h : carryOut b importer d o lines s = .ok (splice, output) t) :
    output.comments = o.comments := by
  obtain ⟨m, -, hweave⟩ := carryOut_eq_ok.1 h
  rw [Output.comments, Output.comments, Output.kind_of_weave hweave]

/-- One iteration leads from a position and a session to the next ones. -/
inductive Advance (b : Backend ω κ) (importer : Importer ω κ) :
    Position → Session ω κ → Position → Session ω κ → Prop
  /-- Lines are passed. -/
  | passed {p q : Position} {s : Session ω κ} {w : Option Warning} (look : p.look = .passed q w) :
      Advance b importer p s q (s.told w)
  /-- A directive is carried out. -/
  | carried {p q : Position} {s t : Session ω κ} {d : Directive} {splice : Splice} {output : Output}
      (look : p.look = .due d q)
      (done : carryOut b importer d q.output q.rest s = .ok (splice, output) t) :
      Advance b importer p s (q.passSplice splice d.indent output) t

/-- A number of iterations leads from a position and a session to others. -/
inductive Reaches (b : Backend ω κ) (importer : Importer ω κ) :
    Nat → Position → Session ω κ → Position → Session ω κ → Prop
  | refl {p : Position} {s : Session ω κ} : Reaches b importer 0 p s p s
  | step {n : Nat} {p₁ p₂ p₃ : Position} {s₁ s₂ s₃ : Session ω κ}
      (first : Advance b importer p₁ s₁ p₂ s₂) (later : Reaches b importer n p₂ s₂ p₃ s₃) :
      Reaches b importer (n + 1) p₁ s₁ p₃ s₃

/-- How a run ends at a position, without another iteration. -/
inductive Ends (b : Backend ω κ) (importer : Importer ω κ) :
    Position → Session ω κ → Outcome × Session ω κ → Prop
  /-- All lines are passed. -/
  | finished {p : Position} {s : Session ω κ} (look : p.look = .nothing) :
      Ends b importer p s (⟨p, none⟩, s)
  /-- A directive fails. -/
  | failed {p q : Position} {s t : Session ω κ} {d : Directive} {e : Failure}
      (look : p.look = .due d q) (failed : carryOut b importer d q.output q.rest s = .error e t) :
      Ends b importer p s (⟨q, some (q.located d e)⟩, t)

end Run

/-! ## What an iteration looks at -/

namespace Position

/-- The position behind the first of the remaining lines, given those after them. -/
def behind (p : Position) (front rest : List Text) : Position :=
  { p with above := front.reverse ++ p.above, rest }

/-- A judgement that passes a block changes the gate alone. It is the same wherever a block with
the same text stands. -/
private theorem judge_passed {q q' : Position} {block : CommentBlock} {w : Option Warning}
    (h : q.judge block = .passed q' w) :
    ∃ gate, q' = { q with gate } ∧ ∀ (r : Position) (start length : Nat), r.gate = q.gate →
      ∃ w', r.judge (block.standingAt start length) = .passed { r with gate } w' := by
  simp only [judge] at h
  split at h
  · next hplain =>
    cases h
    refine ⟨q.gate, rfl, fun r start length hgate => ⟨none, ?_⟩⟩
    simp only [judge, CommentBlock.classify_standingAt, hplain, ← hgate]
  · next word hword =>
    cases h
    refine ⟨q.gate, rfl, fun r start length hgate => ⟨some (.unknownKeyword (start + 1) word), ?_⟩⟩
    simp only [judge, CommentBlock.classify_standingAt, hword, ← hgate]
    rfl
  · next d hd =>
    split at h
    · next hrange =>
      -- the new gate comes from the old one and the body, which stay the same
      cases h
      refine ⟨_, rfl, fun r start length hgate => ⟨(r.gate.apply d.body).2.map .range, ?_⟩⟩
      simp only [judge, CommentBlock.classify_standingAt, hd, Directive.standingAt, hrange, if_true,
        hgate]
    · next hrange =>
      split at h
      · cases h
      · next hclosed =>
        -- a closed gate is closed again
        cases h
        refine ⟨q.gate, rfl, fun r start length hgate => ⟨none, ?_⟩⟩
        rw [← hgate] at hclosed
        simp only [judge, CommentBlock.classify_standingAt, hd, Directive.standingAt, hrange,
          hclosed, if_false, ← hgate]
        rfl

/-- A judgement that finds a directive due finds an open gate. -/
private theorem judge_due {q q' : Position} {block : CommentBlock} {d : Directive}
    (h : q.judge block = .due d q') :
    q' = q ∧ block.classify = .directive d ∧ d.keyword ≠ .range ∧ q.gate.active = true := by
  simp only [judge] at h
  split at h
  · cases h
  · cases h
  · next d' hd =>
    split at h
    · cases h
    · next hrange =>
      split at h
      · next hactive =>
        cases h
        exact ⟨rfl, hd, hrange, hactive⟩
      · cases h

/-- Behind an open gate a directive is due. -/
private theorem judge_directive {q : Position} {block : CommentBlock} {d : Directive}
    (hd : block.classify = .directive d) (hrange : d.keyword ≠ .range)
    (hactive : q.gate.active = true) : q.judge block = .due d q := by
  simp only [judge, hd, hrange, hactive, if_true, if_false]

/-- Nothing stands at a position exactly if no lines are left. -/
theorem look_eq_nothing {p : Position} : p.look = .nothing ↔ p.rest = [] := by
  simp only [look]
  split
  · next h => simp [h]
  · next line rest h =>
    simp only [h, reduceCtorEq, iff_false]
    split
    · simp
    · next block after _ =>
      intro hjudge
      simp only [judge] at hjudge
      split at hjudge
      · cases hjudge
      · cases hjudge
      · split at hjudge
        · cases hjudge
        · split at hjudge <;> cases hjudge

/-- What a position looks at where a comment begins. -/
theorem look_of_collect? {p : Position} {block : CommentBlock} {front rest : List Text}
    (hcollect : p.output.comments.collect? p.line p.rest = some (block, rest))
    (hrest : p.rest = front ++ rest) (hstart : block.start = p.line)
    (hnext : block.next = p.line + front.length) :
    p.look = (p.behind front rest).judge block := by
  have hpass : p.passBlock block rest = p.behind front rest := by
    simp only [passBlock, behind, hstart, hnext, Nat.add_sub_cancel_left, hrest,
      List.take_left]
  cases hp : p.rest with
  | nil =>
    rw [hp] at hcollect
    simp [CommentStyle.collect?] at hcollect
  | cons line lines =>
    rw [hp] at hcollect
    simp only [look, hp, hcollect, hpass]

/-- A line that is no comment is passed. -/
theorem look_of_not_comment {p : Position} {line : Text} {rest : List Text}
    (hrest : p.rest = line :: rest) (hline : p.output.comments.isComment line = false) :
    p.look = .passed (p.behind [line] rest) none := by
  have hcollect : p.output.comments.collect? p.line (line :: rest) = none :=
    CommentStyle.collect?_eq_none.2 hline
  simp only [look, hrest, hcollect]
  rfl

/-- Lines that are passed come before the next position, and the first of them alone decides
whether they are a comment. The same lines are passed wherever they stand, if the lines after them
do not continue their comment. -/
theorem look_passed {p q : Position} {w : Option Warning} (h : p.look = .passed q w) :
    ∃ first more gate, p.rest = first :: more ++ q.rest ∧
      q = { p.behind (first :: more) q.rest with gate } ∧
      (p.output.comments.isComment first = true ∨ more = [] ∧ gate = p.gate) ∧
      ∀ (p' : Position) (others : List Text), p'.gate = p.gate → p'.output = p.output →
        p'.rest = first :: more ++ others →
        (∀ line, others.head? = some line →
          q.rest.head? = some line ∨ p.output.comments.continues first line = false) →
        ∃ w', p'.look = .passed { p'.behind (first :: more) others with gate } w' := by
  cases hrest : p.rest with
  | nil =>
    rw [look_eq_nothing.2 hrest] at h
    cases h
  | cons line rest =>
    cases hcollect : p.output.comments.collect? p.line p.rest with
    | none =>
      -- no comment begins here, and none does wherever the line stands
      rw [hrest] at hcollect
      simp only [look, hrest, hcollect] at h
      cases h
      have hline := CommentStyle.collect?_eq_none.1 hcollect
      refine ⟨line, [], p.gate, rfl, rfl, .inr ⟨rfl, rfl⟩, ?_⟩
      intro p' others hgate houtput hrest' _
      refine ⟨none, ?_⟩
      rw [look_of_not_comment hrest' (houtput ▸ hline), ← hgate]
      rfl
    | some found =>
      obtain ⟨block, after⟩ := found
      obtain ⟨first, more, hlines, hcomment, -, hstart, hnext, hagain⟩ :=
        CommentStyle.collect?_eq_some hcollect
      rw [look_of_collect? hcollect hlines hstart hnext] at h
      obtain ⟨gate, rfl, hjudge⟩ := judge_passed h
      refine ⟨first, more, gate, hrest ▸ hlines, rfl, .inl hcomment, ?_⟩
      intro p' others hgate houtput hrest' hothers
      -- the same block is cut off above the other lines
      have hcollect' := hagain p'.line others hothers
      rw [← houtput, ← hrest'] at hcollect'
      obtain ⟨w', hw⟩ := hjudge (p'.behind (first :: more) others) p'.line (first :: more).length
        hgate
      exact ⟨w', by rw [look_of_collect? hcollect' hrest' rfl rfl, hw]⟩

/-- A directive that is due is a block of the lines before the next position. It is due wherever
the same lines stand, if the lines after them do not continue their comment. -/
theorem look_due {p q : Position} {d : Directive} (h : p.look = .due d q) :
    ∃ first more block, p.rest = first :: more ++ q.rest ∧
      q = p.behind (first :: more) q.rest ∧
      p.output.comments.collect? p.line p.rest = some (block, q.rest) ∧
      block.classify = .directive d ∧ d = d.standingAt p.line (first :: more).length ∧
      p.output.comments.isComment first = true ∧
      d.keyword ≠ .range ∧ p.gate.active = true ∧
      ∀ (p' : Position) (others : List Text), p'.gate = p.gate → p'.output = p.output →
        p'.rest = first :: more ++ others →
        (∀ line, others.head? = some line →
          q.rest.head? = some line ∨ p.output.comments.continues first line = false) →
        p'.look = .due (d.standingAt p'.line (first :: more).length)
          (p'.behind (first :: more) others) := by
  cases hcollect : p.output.comments.collect? p.line p.rest with
  | none =>
    simp only [look] at h
    split at h
    · cases h
    · next hrest =>
      rw [hrest] at hcollect
      simp [hcollect] at h
  | some found =>
    obtain ⟨block, after⟩ := found
    obtain ⟨first, more, hlines, hcomment, -, hstart, hnext, hagain⟩ :=
      CommentStyle.collect?_eq_some hcollect
    rw [look_of_collect? hcollect hlines hstart hnext] at h
    obtain ⟨rfl, hclass, hrange, hactive⟩ := judge_due h
    obtain ⟨hs, hn, -⟩ := CommentBlock.classify_eq_directive hclass
    refine ⟨first, more, block, hlines, rfl, rfl, hclass, ?_, hcomment, hrange, hactive, ?_⟩
    · rw [Directive.standingAt, ← hnext, ← hstart, ← hs, ← hn]
    · intro p' others hgate houtput hrest' hothers
      have hcollect' := hagain p'.line others hothers
      rw [← houtput, ← hrest'] at hcollect'
      rw [look_of_collect? hcollect' hrest' rfl rfl]
      refine judge_directive ?_ hrange (hgate ▸ hactive)
      rw [CommentBlock.classify_standingAt, hclass]

/-- Where lines are passed, fewer lines are left, and these are the last ones. -/
theorem rest_of_passed {p q : Position} {w : Option Warning} (h : p.look = .passed q w) :
    q.rest <:+ p.rest ∧ q.rest.length < p.rest.length := by
  obtain ⟨first, more, gate, hrest, -, -, -⟩ := look_passed h
  rw [hrest]
  refine ⟨List.suffix_append .., ?_⟩
  simp only [List.length_append, List.length_cons]
  omega

/-- So it is where a directive is due. -/
theorem rest_of_due {p q : Position} {d : Directive} (h : p.look = .due d q) :
    q.rest <:+ p.rest ∧ q.rest.length < p.rest.length := by
  obtain ⟨first, more, -, hrest, -⟩ := look_due h
  rw [hrest]
  refine ⟨List.suffix_append .., ?_⟩
  simp only [List.length_append, List.length_cons]
  omega

/-- The body of a directive that stands in lines has no newline. -/
theorem newline_mem_body {p q : Position} {d : Directive} (h : p.look = .due d q)
    (hlines : ∀ line ∈ p.rest, '\n' ∉ line) : '\n' ∉ d.body := by
  obtain ⟨first, more, block, -, -, hcollect, hclass, -⟩ := look_due h
  obtain ⟨-, -, -, -, hbody⟩ := CommentBlock.classify_eq_directive hclass
  exact fun hmem => CommentStyle.newline_mem_text hcollect hlines (hbody.subset hmem)

end Position

/-! ## Whole runs -/

/-- That a transaction cannot be undone is told, and no failure of its own. -/
theorem Action.exists_abandon {ω κ : Type} (b : Backend ω κ) (s : Session ω κ) :
    ∃ t, abandon b s = .ok () t := by
  unfold abandon
  split
  · exact ⟨_, rfl⟩
  · exact ⟨_, rfl⟩

namespace Run

variable {ω κ : Type} {b : Backend ω κ} {importer : Importer ω κ}

/-- An iteration leaves fewer lines to look at, and these are the last of those it found. -/
theorem Advance.rest_suffix {p q : Position} {s t : Session ω κ}
    (h : Advance b importer p s q t) :
    q.rest <:+ p.rest ∧ q.rest.length < p.rest.length := by
  cases h with
  | passed look => exact Position.rest_of_passed look
  | @carried r _ _ d splice output look done =>
    obtain ⟨hsuffix, hlt⟩ := Position.rest_of_due look
    have hdrop : (r.passSplice splice d.indent output).rest = r.rest.drop splice.removed := rfl
    rw [hdrop]
    -- what the change removes are lines behind the comment
    refine ⟨(List.drop_suffix ..).trans hsuffix, ?_⟩
    rw [List.length_drop]
    omega

/-- An iteration leaves the kind of the document as it is. -/
theorem Advance.kind_eq {p q : Position} {s t : Session ω κ} (h : Advance b importer p s q t) :
    q.output.kind = p.output.kind := by
  cases h with
  | passed look =>
    obtain ⟨first, more, gate, -, hq, -, -⟩ := Position.look_passed look
    rw [hq]
    rfl
  | carried look done =>
    obtain ⟨first, more, -, -, hq, -⟩ := Position.look_due look
    obtain ⟨m, -, hweave⟩ := carryOut_eq_ok.1 done
    apply (Output.kind_of_weave hweave).trans
    rw [hq]
    rfl

/-- What an iteration leaves above the next position begins with the line that it has found. -/
theorem Advance.exists_above {p q : Position} {s t : Session ω κ}
    (h : Advance b importer p s q t) :
    ∃ first more, p.rest.head? = some first ∧ q.above = (first :: more).reverse ++ p.above := by
  cases h with
  | passed look =>
    obtain ⟨first, more, gate, hrest, hq, -, -⟩ := Position.look_passed look
    exact ⟨first, more, by rw [hrest]; rfl, by rw [hq]; rfl⟩
  | @carried r _ _ d splice output look done =>
    obtain ⟨first, more, -, hrest, hr, -⟩ := Position.look_due look
    refine ⟨first, more ++ splice.written d.indent, by rw [hrest]; rfl, ?_⟩
    rw [hr, ← List.cons_append, List.reverse_append, List.append_assoc]
    rfl

theorem walk_advance {p q : Position} {s t : Session ω κ} (h : Advance b importer p s q t) :
    walk b importer p s = walk b importer q t := by
  cases h with
  | passed look => exact walk_passed look s
  | carried look done => exact walk_carried look done

/-- To prove something of every run, it is enough to prove it of a run that ends at once, and of a
run that goes on from what one iteration gives. -/
theorem run_induction (b : Backend ω κ) (importer : Importer ω κ)
    {motive : Position → Session ω κ → Prop}
    (nothing : ∀ p s, p.look = .nothing → motive p s)
    (passed : ∀ p s q w, p.look = .passed q w → motive q (s.told w) → motive p s)
    (failed : ∀ p s q d e t, p.look = .due d q →
      carryOut b importer d q.output q.rest s = .error e t → motive p s)
    (carried : ∀ p s q d splice output t, p.look = .due d q →
      carryOut b importer d q.output q.rest s = .ok (splice, output) t →
      motive (q.passSplice splice d.indent output) t → motive p s)
    (p : Position) (s : Session ω κ) : motive p s := by
  -- the lines that are left get fewer
  induction hn : p.rest.length using Nat.strongRecOn generalizing p s with
  | ind n ih =>
    cases hlook : p.look with
    | nothing => exact nothing p s hlook
    | passed q w =>
      have hlt := (Position.rest_of_passed hlook).2
      exact passed p s q w hlook (ih _ (hn ▸ hlt) q (s.told w) rfl)
    | due d q =>
      cases hdone : carryOut b importer d q.output q.rest s with
      | error e t => exact failed p s q d e t hlook hdone
      | ok r t =>
        obtain ⟨splice, output⟩ := r
        have hlt := (Advance.carried hlook hdone).rest_suffix.2
        exact carried p s q d splice output t hlook hdone (ih _ (hn ▸ hlt) _ t rfl)

/-- The same where it does not matter what an iteration does. -/
theorem advance_induction (b : Backend ω κ) (importer : Importer ω κ)
    {motive : Position → Session ω κ → Prop}
    (nothing : ∀ p s, p.look = .nothing → motive p s)
    (failed : ∀ p s q d e t, p.look = .due d q →
      carryOut b importer d q.output q.rest s = .error e t → motive p s)
    (advance : ∀ p s q t, Advance b importer p s q t → motive q t → motive p s)
    (p : Position) (s : Session ω κ) : motive p s := by
  induction p, s using run_induction b importer with
  | nothing p s hlook => exact nothing p s hlook
  | passed p s q w hlook ih => exact advance p s q _ (.passed hlook) ih
  | failed p s q d e t hlook hfail => exact failed p s q d e t hlook hfail
  | carried p s q d splice output t hlook hdone ih =>
    exact advance p s _ t (.carried hlook hdone) ih

/-- A run ends, at a position that its iterations reach. -/
theorem exists_ending (b : Backend ω κ) (importer : Importer ω κ) (p : Position)
    (s : Session ω κ) :
    ∃ n q t, Reaches b importer n p s q t ∧ Ends b importer q t (walk b importer p s) := by
  induction p, s using advance_induction b importer with
  | nothing p s hlook =>
    refine ⟨0, p, s, .refl, ?_⟩
    rw [walk_nothing hlook]
    exact .finished hlook
  | failed p s q d e t hlook hfail =>
    refine ⟨0, p, s, .refl, ?_⟩
    rw [walk_failed hlook hfail]
    exact .failed hlook hfail
  | advance p s q t hstep ih =>
    obtain ⟨n, r, u, hreach, hend⟩ := ih
    refine ⟨n + 1, r, u, .step hstep hreach, ?_⟩
    rw [walk_advance hstep]
    exact hend

/-- What every iteration preserves holds wherever a run gets. -/
theorem Reaches.invariant (Inv : Position → Session ω κ → Prop)
    (preserved : ∀ p s q t, Advance b importer p s q t → Inv p s → Inv q t)
    {n : Nat} {p q : Position} {s t : Session ω κ} (h : Reaches b importer n p s q t)
    (hp : Inv p s) : Inv q t := by
  induction h with
  | refl => exact hp
  | step first _ ih => exact ih (preserved _ _ _ _ first hp)

/-- A run leaves the kind of the document as it is. -/
theorem Reaches.kind_eq {n : Nat} {p q : Position} {s t : Session ω κ}
    (h : Reaches b importer n p s q t) : q.output.kind = p.output.kind :=
  h.invariant (fun r _ => r.output.kind = p.output.kind)
    (fun _ _ _ _ hstep hp => hstep.kind_eq.trans hp) rfl

/-! ## What a run makes of its lines -/

/-- What a run makes of the lines below a position. -/
def woven (b : Backend ω κ) (importer : Importer ω κ) (p : Position) (s : Session ω κ) :
    List Text :=
  (walk b importer p s).1.position.document.lines.drop p.line

/-- Lines that are known to be left below the lines above are what the run makes. -/
private theorem woven_eq {p : Position} {s : Session ω κ} {lines : List Text}
    (h : (walk b importer p s).1.position.document = ⟨p.above.reverse ++ lines⟩) :
    woven b importer p s = lines := by
  have hline : p.line = p.above.reverse.length := (List.length_reverse ..).symm
  rw [woven, h, hline]
  exact List.drop_left

/-- A run leaves the lines above a position as they are. -/
theorem walk_document (b : Backend ω κ) (importer : Importer ω κ) (p : Position)
    (s : Session ω κ) :
    (walk b importer p s).1.position.document = ⟨p.above.reverse ++ woven b importer p s⟩ := by
  -- it is enough that some lines follow those above the position: these are the ones that are made
  suffices h : ∃ lines, (walk b importer p s).1.position.document = ⟨p.above.reverse ++ lines⟩ by
    obtain ⟨lines, hlines⟩ := h
    rw [woven_eq hlines]
    exact hlines
  induction p, s using advance_induction b importer with
  | nothing p s hlook =>
    refine ⟨p.rest, ?_⟩
    rw [walk_nothing hlook]
    rfl
  | failed p s q d e t hlook hfail =>
    obtain ⟨first, more, -, -, hq, -⟩ := Position.look_due hlook
    have habove : q.above = (first :: more).reverse ++ p.above := by rw [hq]; rfl
    refine ⟨first :: more ++ q.rest, ?_⟩
    rw [walk_failed hlook hfail]
    simp only [Position.document]
    rw [habove, List.reverse_append, List.reverse_reverse, List.append_assoc]
  | advance p s q t hstep ih =>
    obtain ⟨first, more, -, habove⟩ := hstep.exists_above
    obtain ⟨lines, hlines⟩ := ih
    refine ⟨first :: more ++ lines, ?_⟩
    rw [walk_advance hstep, hlines, habove, List.reverse_append, List.reverse_reverse,
      List.append_assoc]

theorem woven_nothing {p : Position} (h : p.look = .nothing) (s : Session ω κ) :
    woven b importer p s = [] := by
  apply woven_eq
  rw [walk_nothing h, ← Position.look_eq_nothing.1 h]
  rfl

/-- What an iteration leaves above the next position stays above what is made of the lines there. -/
theorem woven_advance {p q : Position} {s t : Session ω κ} {written : List Text}
    (h : Advance b importer p s q t) (habove : q.above = written.reverse ++ p.above) :
    woven b importer p s = written ++ woven b importer q t := by
  apply woven_eq
  rw [walk_advance h, walk_document, habove, List.reverse_append, List.reverse_reverse,
    List.append_assoc]

/-- A directive that fails leaves the lines as they are. -/
theorem woven_failed {p q : Position} {s t : Session ω κ} {d : Directive} {e : Failure}
    (look : p.look = .due d q) (failed : carryOut b importer d q.output q.rest s = .error e t) :
    woven b importer p s = p.rest := by
  obtain ⟨first, more, -, hrest, hq, -⟩ := Position.look_due look
  have habove : q.above = (first :: more).reverse ++ p.above := by rw [hq]; rfl
  apply woven_eq
  rw [walk_failed look failed]
  simp only [Position.document]
  rw [habove, hrest, List.reverse_append, List.reverse_reverse, List.append_assoc]

/-- The first line below a position stays the first: it is a comment that stays, or a line that is
passed. -/
theorem head_woven (b : Backend ω κ) (importer : Importer ω κ) (p : Position)
    (s : Session ω κ) :
    (woven b importer p s).head? = p.rest.head? := by
  induction p, s using advance_induction b importer with
  | nothing p s hlook => rw [woven_nothing hlook, Position.look_eq_nothing.1 hlook]
  | failed p s q d e t hlook hfail => rw [woven_failed hlook hfail]
  | advance p s q t hstep ih =>
    obtain ⟨first, more, hfirst, habove⟩ := hstep.exists_above
    rw [woven_advance hstep habove, hfirst]
    rfl

/-! ## Runs as transactions -/

/-- The ways in which the run of a document goes, from the position before its first line. -/
inductive Course (b : Backend ω κ) (importer : Importer ω κ) (p : Position) (s : Session ω κ) :
    Outcome × Session ω κ → Prop
  /-- The transaction cannot be opened. -/
  | refused {t : Session ω κ} {e : Failure} (opened : Action.startTransaction b s = .error e t) :
      Course b importer p s (⟨p, some e⟩, t)
  /-- All lines are passed, and the changes are made to last. -/
  | lasting {q : Position} {t u v : Session ω κ} (opened : Action.startTransaction b s = .ok () t)
      (walked : walk b importer p t = (⟨q, none⟩, u)) (closed : Action.commit b u = .ok () v) :
      Course b importer p s (⟨q, none⟩, v)
  /-- All lines are passed, but the changes cannot be made to last. -/
  | unlasting {q : Position} {t u v : Session ω κ} {e : Failure}
      (opened : Action.startTransaction b s = .ok () t)
      (walked : walk b importer p t = (⟨q, none⟩, u)) (closed : Action.commit b u = .error e v) :
      Course b importer p s (⟨q, some e⟩, v)
  /-- A directive fails. -/
  | abandoned {q : Position} {t u v : Session ω κ} {e : Failure}
      (opened : Action.startTransaction b s = .ok () t)
      (walked : walk b importer p t = (⟨q, some e⟩, u)) (closed : Action.abandon b u = .ok () v) :
      Course b importer p s (⟨q, some e⟩, v)

theorem process_course (b : Backend ω κ) (importer : Importer ω κ) (settings : Settings)
    (kind : DocumentKind) (name : Text) (input : Document) (s : Session ω κ) :
    Course b importer (start settings kind name input) s
      (process b importer settings kind name input s) := by
  unfold process
  dsimp only
  cases hopen : Action.startTransaction b s with
  | error e t => exact .refused hopen
  | ok x t =>
    dsimp only
    rcases hwalk : walk b importer (start settings kind name input) t with ⟨⟨q, _ | e⟩, u⟩
    · dsimp only
      cases hcommit : Action.commit b u with
      | ok y v => exact .lasting hopen hwalk hcommit
      | error e v => exact .unlasting hopen hwalk hcommit
    · dsimp only
      obtain ⟨v, habandon⟩ := Action.exists_abandon b u
      rw [habandon]
      exact .abandoned hopen hwalk habandon

section Process

variable {settings : Settings} {kind : DocumentKind} {name : Text} {input : Document}
  {s t : Session ω κ}

/-- What a run makes of its document is decided inside of its transaction. -/
theorem position_process (h : Action.startTransaction b s = .ok () t) :
    (process b importer settings kind name input s).1.position =
      (walk b importer (start settings kind name input) t).1.position := by
  generalize hrun : process b importer settings kind name input s = run
  have hcourse := process_course b importer settings kind name input s
  rw [hrun] at hcourse
  cases hcourse with
  | refused opened =>
    rw [h] at opened
    cases opened
  | lasting opened walked | unlasting opened walked | abandoned opened walked =>
    rw [h] at opened
    cases opened
    rw [walked]

/-- Without a transaction nothing is made of the document. -/
theorem position_process_of_refused {e : Failure} (h : Action.startTransaction b s = .error e t) :
    (process b importer settings kind name input s).1.position =
      start settings kind name input := by
  generalize hrun : process b importer settings kind name input s = run
  have hcourse := process_course b importer settings kind name input s
  rw [hrun] at hcourse
  cases hcourse with
  | refused => rfl
  | lasting opened | unlasting opened | abandoned opened =>
    rw [h] at opened
    cases opened

end Process

end Run

end QueryWeave
