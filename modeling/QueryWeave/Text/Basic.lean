/-!
# Text

Text is a list of characters, so that every scanner of this library is a recursion on its input.
This module holds the operations shared by all of them: taking a known beginning off, cutting at a
separator, joining, and replacing a fixed word.
-/

namespace QueryWeave

/-- Text is a list of characters. -/
abbrev Text := List Char

namespace Text

instance : Coe String Text := ⟨String.toList⟩

/-! ## Beginnings -/

/-- The rest of a text after the word `w`, if the text starts with `w`. -/
def after? : (w s : Text) → Option Text
  | [], s => some s
  | _ :: _, [] => none
  | a :: w, b :: s => if a = b then after? w s else none

/-- Whether a text starts with the word `w`. -/
def startsWith (w s : Text) : Bool := (after? w s).isSome

@[simp] theorem after?_append (w s : Text) : after? w (w ++ s) = some s := by
  induction w with
  | nil => rfl
  | cons a w ih => simp [after?, ih]

/-- A word is taken off exactly when it stands at the beginning. -/
theorem after?_eq_some_iff {w s r : Text} : after? w s = some r ↔ s = w ++ r := by
  induction w generalizing s with
  | nil => simp [after?]
  | cons a w ih =>
    cases s with
    | nil => simp [after?]
    | cons b s =>
      by_cases h : a = b
      · simp [after?, h, ih]
      · simp [after?, h, Ne.symm h]

/-! ## Cutting and joining -/

/-- The texts before and after the first `c`. -/
def cut? (c : Char) : Text → Option (Text × Text)
  | [] => none
  | d :: s => if d = c then some ([], s) else (cut? c s).map fun (a, b) => (d :: a, b)

/-- A cut happens at the first separator. -/
theorem cut?_eq_some_iff {c : Char} {s a b : Text} :
    cut? c s = some (a, b) ↔ s = a ++ c :: b ∧ c ∉ a := by
  induction s generalizing a with
  | nil => simp [cut?]
  | cons d s ih =>
    by_cases h : d = c
    · cases a with
      | nil => simp [cut?, h]
      | cons e a => simp +contextual [cut?, h, eq_comm]
    · cases a with
      | nil => simp [cut?, h]
      | cons e a =>
        simp only [cut?, h, if_false, Option.map_eq_some_iff, Prod.mk.injEq, List.cons.injEq,
          List.cons_append, List.mem_cons, not_or]
        constructor
        · rintro ⟨⟨a', b'⟩, h₁, ⟨rfl, rfl⟩, rfl⟩
          exact ⟨⟨rfl, (ih.1 h₁).1⟩, Ne.symm h, (ih.1 h₁).2⟩
        · rintro ⟨⟨rfl, h₁⟩, _, h₂⟩
          exact ⟨(a, b), ih.2 ⟨h₁, h₂⟩, ⟨rfl, rfl⟩, rfl⟩

/-- Texts one after the other with a separator between them. -/
def join (separator : Text) : List Text → Text
  | [] => []
  | [s] => s
  | s :: t :: r => s ++ separator ++ join separator (t :: r)

/-- `n` times the same character. -/
def fill (n : Nat) (c : Char) : Text := List.replicate n c

/-! ## Replacing -/

/-- Every occurrence of the word `w :: ws`, from the left and without overlap, replaced by `new`. -/
def replaceWord (w : Char) (ws new : Text) : Text → Text
  | [] => []
  | c :: s =>
    match _h : after? (w :: ws) (c :: s) with
    | some r => new ++ replaceWord w ws new r
    | none => c :: replaceWord w ws new s
termination_by s => s.length
decreasing_by
  · have := congrArg List.length (after?_eq_some_iff.1 _h)
    simp at this ⊢
    omega
  · simp

/-! ## Measures and messages -/

/-- Number of bytes of the text in UTF-8. -/
def utf8Size : Text → Nat
  | [] => 0
  | c :: s => c.utf8Size + utf8Size s

@[simp] theorem utf8Size_append (s t : Text) : utf8Size (s ++ t) = utf8Size s + utf8Size t := by
  induction s with
  | nil => simp [utf8Size]
  | cons c s ih => simp [utf8Size, ih, Nat.add_assoc]

/-- The text as a part of a message. -/
def shown (s : Text) : String := String.ofList s

end Text

end QueryWeave
