import QueryWeave.Proofs.Comments
import QueryWeave.Weave.Output

/-!
# What a change removes

Every handler counts for itself the old lines that it replaces. Whatever it recognises, it counts no
more lines than there are after its directive, so that the change is one of the document.

Main statement: `Output.removed_le_of_weave`.
-/

namespace QueryWeave

open Text

/-- What a mapped computation gives was computed. -/
theorem Except.map_eq_ok {ε α β : Type} {f : α → β} {x : Except ε α} {y : β}
    (h : x.map f = .ok y) : ∃ a, x = .ok a ∧ f a = y := by
  cases x with
  | error e => cases h
  | ok a =>
    cases h
    exact ⟨a, rfl, rfl⟩

/-- It fails just if the computation does. -/
theorem Except.exists_map_eq_error_iff {ε α β : Type} {f : α → β} {x : Except ε α} :
    (∃ e, x.map f = .error e) ↔ ∃ e, x = .error e := by
  cases x with
  | error e => exact ⟨fun _ => ⟨e, rfl⟩, fun _ => ⟨e, rfl⟩⟩
  | ok a =>
    constructor <;>
    · rintro ⟨e, he⟩
      cases he

/-- A change that removes certain lines puts its own in their place. -/
theorem Splice.apply_append {s : Splice} {old : List Text} (h : s.removed = old.length)
    (above below : List Text) (indent : Nat) :
    s.apply ⟨above ++ (old ++ below)⟩ above.length indent =
      (⟨above ++ s.written indent ++ below⟩, above.length + s.content.length) := by
  have hdrop : (above ++ (old ++ below)).drop (above.length + s.removed) = below := by
    rw [← List.append_assoc]
    exact List.drop_left' (by rw [List.length_append, h])
  simp only [apply, Document.replace, List.take_left, hdrop, written]

/-! ## Counting old lines -/

namespace Latex

/-- Old curves are lines that were read. -/
theorem lineCount_keptCurves_le (lines : List Text) :
    lineCount (keptCurves lines) ≤ lines.length := by
  fun_induction keptCurves lines with
  | case1 => simp [lineCount]
  | case2 line w h => simp [lineCount]
  | case3 line h => simp [lineCount]
  | case4 line second rest h => simp [lineCount]
  | case5 line second rest w h legend hlegend ih =>
    -- a curve and its legend are two lines
    simp only [lineCount, Option.isSome_some, if_true, List.length_cons]
    omega
  | case6 line second rest w h hlegend ih =>
    -- without a legend, the second line is still to be read
    simp only [lineCount, Option.isSome_none, Bool.false_eq_true, if_false, List.length_cons] at *
    omega

end Latex

namespace Fragment

theorem length_plotEntries_le (lines : List Text) : (plotEntries lines).length ≤ lines.length := by
  induction lines with
  | nil => simp [plotEntries]
  | cons line rest ih =>
    rw [plotEntries]
    split
    · split
      · simpa using ih
      · simp
    · simp

end Fragment

namespace Gnuplot

theorem length_oldStatement_le (lines : List Text) : (oldStatement lines).2 ≤ lines.length := by
  cases lines with
  | nil => simp [oldStatement]
  | cons line rest =>
    rw [oldStatement]
    split
    · -- the header and its entries
      have hentries := Fragment.length_plotEntries_le rest
      simpa using hentries
    · simp

end Gnuplot

namespace CommentStyle

/-- An old block ends at a line that was read. -/
theorem removed_closedBlock_le (style : CommentStyle) (keyword : Keyword) (query : Text)
    (lines new : List Text) :
    (style.closedBlock keyword query lines new).removed ≤ lines.length := by
  simp only [closedBlock]
  split
  · next n h => exact next?_lt h
  · exact Nat.zero_le _

end CommentStyle

/-! ## All changes -/

namespace Output

variable {o output : Output} {d : Directive} {m : Material} {lines : List Text} {splice : Splice}

/-- A change removes lines that are there. -/
theorem removed_le_of_weave (h : o.weave d m lines = .ok (splice, output)) :
    splice.removed ≤ lines.length := by
  have prefix_le : ∀ p : Text → Bool, (lines.takeWhile p).length ≤ lines.length := fun p =>
    (List.takeWhile_prefix p).length_le
  cases m with
  | nothing =>
    cases h
    exact Nat.zero_le _
  | box t =>
    cases h
    exact CommentStyle.removed_closedBlock_le ..
  | rows style t r =>
    cases h
    exact CommentStyle.removed_closedBlock_le ..
  | points rows =>
    cases o with
    | latex =>
      cases h
      simp only [Latex.plot]
      split
      · next w hw =>
        -- an old plot is the line below the directive, so there is one
        cases lines with
        | nil => simp at hw
        | cons line rest => simp
      · exact Nat.zero_le _
    | gnuplot f =>
      cases h
      exact Gnuplot.length_oldStatement_le lines
  | curves p =>
    cases o with
    | latex =>
      cases h
      exact Latex.lineCount_keptCurves_le lines
    | gnuplot f =>
      cases h
      exact Gnuplot.length_oldStatement_le lines
  | macros ms =>
    -- the names of the macros are checked, but what is removed does not depend on them
    cases o with
    | latex =>
      obtain ⟨change, hchange, heq⟩ := Except.map_eq_ok h
      obtain ⟨new, -, rfl⟩ := Except.map_eq_ok hchange
      cases heq
      exact prefix_le _
    | gnuplot f =>
      obtain ⟨change, hchange, heq⟩ := Except.map_eq_ok h
      obtain ⟨new, -, rfl⟩ := Except.map_eq_ok hchange
      cases heq
      exact prefix_le _

/-- A change leaves the kind of the document as it is. -/
theorem kind_of_weave (h : o.weave d m lines = .ok (splice, output)) : output.kind = o.kind := by
  cases m with
  | nothing | box | rows =>
    cases h
    rfl
  | points | curves =>
    cases o with
    | latex | gnuplot f =>
      cases h
      rfl
  | macros ms =>
    cases o with
    | latex =>
      obtain ⟨change, -, heq⟩ := Except.map_eq_ok h
      cases heq
      rfl
    | gnuplot f =>
      obtain ⟨change, -, heq⟩ := Except.map_eq_ok h
      cases heq
      rfl

end Output

end QueryWeave
