import QueryWeave.Text.Basic

/-!
# UTF-8

Bytes are read as text in two ways: strictly, where any ill-formed byte refuses the whole, and
leniently, where each maximal ill-formed part becomes one replacement character U+FFFD.
-/

namespace QueryWeave.Text

/-- The text that well-formed UTF-8 bytes stand for. -/
def ofUtf8? (bytes : ByteArray) : Option Text := bytes.utf8Decode?.map Array.toList

/-- The UTF-8 bytes of a text. -/
def toUtf8 (s : Text) : ByteArray := (String.ofList s).toByteArray

/-- Decoding undoes encoding. -/
@[simp] theorem ofUtf8?_toUtf8 (s : Text) : ofUtf8? (toUtf8 s) = some s := by
  simp [ofUtf8?, toUtf8]

/-- A text has only one form in bytes. -/
theorem ofUtf8?_eq_some_iff {bytes : ByteArray} {s : Text} :
    ofUtf8? bytes = some s ↔ bytes = toUtf8 s := by
  constructor
  · intro h
    obtain ⟨chars, hchars, rfl⟩ := Option.map_eq_some_iff.1 h
    have hsome : bytes.utf8Decode?.isSome = true := by rw [hchars]; rfl
    have hencode := ByteArray.utf8Encode_get_utf8Decode? (h := hsome)
    simp only [hchars, Option.get_some] at hencode
    rw [toUtf8, String.toByteArray_ofList, hencode]
  · rintro rfl
    exact ofUtf8?_toUtf8 s

theorem toUtf8_inj {s s' : Text} : toUtf8 s = toUtf8 s' ↔ s = s' := by
  constructor
  · intro h
    have hs : some s = some s' := by rw [← ofUtf8?_toUtf8 s, h, ofUtf8?_toUtf8]
    exact Option.some.inj hs
  · rintro rfl
    rfl

/-- Text is encoded part by part. -/
theorem toUtf8_append (s t : Text) : toUtf8 (s ++ t) = toUtf8 s ++ toUtf8 t := by
  simp [toUtf8]

theorem toUtf8_cons (c : Char) (s : Text) : toUtf8 (c :: s) = toUtf8 [c] ++ toUtf8 s :=
  toUtf8_append [c] s

@[simp] theorem size_toUtf8 (s : Text) : (toUtf8 s).size = utf8Size s := by
  induction s with
  | nil => rfl
  | cons c s ih =>
    have hc : (toUtf8 [c]).size = c.utf8Size := by simp [toUtf8, List.utf8Encode_singleton]
    rw [toUtf8_cons, ByteArray.size_append, ih, hc]
    rfl

/-! ## Lenient reading -/

/-- The character that stands for an ill-formed part. -/
def replacement : Char := Char.ofNat 0xFFFD

/-- For a first byte: how many bytes must follow it, the range of the first of them, and the bits
that the first byte contributes. -/
def leadByte (b : Nat) : Option (Nat × Nat × Nat × Nat) :=
  if 0xC2 ≤ b ∧ b ≤ 0xDF then some (1, 0x80, 0xBF, b - 0xC0)
  else if b = 0xE0 then some (2, 0xA0, 0xBF, b - 0xE0)
  else if b = 0xED then some (2, 0x80, 0x9F, b - 0xE0)
  else if 0xE1 ≤ b ∧ b ≤ 0xEF then some (2, 0x80, 0xBF, b - 0xE0)
  else if b = 0xF0 then some (3, 0x90, 0xBF, b - 0xF0)
  else if b = 0xF4 then some (3, 0x80, 0x8F, b - 0xF0)
  else if 0xF1 ≤ b ∧ b ≤ 0xF3 then some (3, 0x80, 0xBF, b - 0xF0)
  else none

/-- What a reader expects next. -/
inductive Expecting
  /-- A new character. -/
  | first
  /-- `count + 1` more bytes of a character, the next one between `low` and `high`. -/
  | more (count low high bits : Nat)

/-- Reads bytes from left to right; a byte that cannot continue a character ends it as ill-formed
and is read again as the first byte of the next one. -/
def readLenient : Expecting → List UInt8 → Text
  | .first, [] => []
  | .more .., [] => [replacement]
  | .first, b :: bs =>
    let n := b.toNat
    if n < 0x80 then Char.ofNat n :: readLenient .first bs
    else match leadByte n with
      | some (count, low, high, bits) => readLenient (.more (count - 1) low high bits) bs
      | none => replacement :: readLenient .first bs
  | .more count low high bits, b :: bs =>
    let n := b.toNat
    if low ≤ n ∧ n ≤ high then
      let bits := bits * 64 + (n - 0x80)
      match count with
      | 0 => Char.ofNat bits :: readLenient .first bs
      | count + 1 => readLenient (.more count 0x80 0xBF bits) bs
    else if n < 0x80 then replacement :: Char.ofNat n :: readLenient .first bs
    else match leadByte n with
      | some (count, low, high, bits) =>
        replacement :: readLenient (.more (count - 1) low high bits) bs
      | none => replacement :: replacement :: readLenient .first bs

/-- The text of any bytes, with U+FFFD for each maximal ill-formed part. -/
def ofUtf8Lenient (bytes : List UInt8) : Text := readLenient .first bytes

example : ofUtf8Lenient [0xF0, 0x90, 0x8D, 0x41] = [replacement, 'A'] := by decide
example : ofUtf8Lenient [0xED, 0xA0, 0x80] = [replacement, replacement, replacement] := by decide

end QueryWeave.Text
