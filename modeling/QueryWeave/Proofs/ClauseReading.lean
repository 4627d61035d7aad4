import QueryWeave.Proofs.WrittenNumbers
import QueryWeave.Reformat.Reader

/-!
# Reading written clauses

A clause that is written is read back as it was. What has to be shown is where each part of it ends:
a key ends at the equals sign or the blank behind it, a bare value at the next blank, and a value in
parentheses where they are balanced. Every step is therefore stated with the rest of the clause
behind what is read, and this is a `Clause.Remainder`: nothing, or a blank and the next key.

Main statement: `Clause.read_write`. The clauses that it is about are those whose numbers fit into
their types and whose separators are balanced (`Clause.IsWritable`).
-/

namespace QueryWeave

open Text

/-! ## Balanced text -/

/-- Every parenthesis of the text is closed in it, and none is closed before it is opened. -/
inductive Balanced : Text → Prop
  | nil : Balanced []
  | plain {c : Char} {s : Text} (hopen : c ≠ '(') (hclose : c ≠ ')') (hs : Balanced s) :
    Balanced (c :: s)
  | nested {s t : Text} (hs : Balanced s) (ht : Balanced t) : Balanced ('(' :: s ++ ')' :: t)

namespace Balanced

theorem append {s t : Text} (hs : Balanced s) (ht : Balanced t) : Balanced (s ++ t) := by
  induction hs with
  | nil => exact ht
  | plain hopen hclose _ ih => exact .plain hopen hclose ih
  | nested hs _ _ ih =>
    have h := Balanced.nested hs ih
    simpa using h

theorem of_forall {s : Text} (h : ∀ c ∈ s, c ≠ '(' ∧ c ≠ ')') : Balanced s := by
  induction s with
  | nil => exact .nil
  | cons c s ih =>
    obtain ⟨hopen, hclose⟩ := h c (List.mem_cons_self ..)
    exact .plain hopen hclose (ih fun d hd => h d (List.mem_cons_of_mem _ hd))

/-- Text without parentheses, as it can be decided. -/
theorem of_all {s : Text} (h : (s.all fun c => c != '(' && c != ')') = true) : Balanced s := by
  apply of_forall
  simpa using h

theorem join {xs : List Text} (h : ∀ x ∈ xs, Balanced x) : Balanced (Text.join [' '] xs) := by
  have hseparator : Balanced [' '] := of_all (by decide)
  fun_induction Text.join [' '] xs with
  | case1 => exact .nil
  | case2 s => exact h s (List.mem_singleton_self s)
  | case3 s t r ih =>
    have hs := h s (List.mem_cons_self ..)
    exact (hs.append hseparator).append (ih fun x hx => h x (List.mem_cons_of_mem _ hx))

/-- Balanced text is skipped at every depth. -/
theorem balanced?_append {s : Text} (hs : Balanced s) (depth : Nat) (rest : Text) :
    Clause.balanced? depth (s ++ rest) =
      (Clause.balanced? depth rest).map fun (a, r) => (s ++ a, r) := by
  induction hs generalizing depth rest with
  | nil => simp
  | @plain c s hopen hclose _ ih =>
    simp only [List.cons_append, Clause.balanced?, hopen, hclose, if_false, ih depth rest,
      Option.map_map]
    rfl
  | @nested s t _ _ ihs iht =>
    -- one level deeper the inner text is skipped up to the parenthesis that closes it
    have hinner := ihs (depth + 1) (')' :: (t ++ rest))
    have hafter : Clause.balanced? (depth + 1) (')' :: (t ++ rest)) =
        (Clause.balanced? depth (t ++ rest)).map fun (a, r) => (')' :: a, r) := rfl
    rw [hafter, iht depth rest] at hinner
    have hwhole : '(' :: s ++ ')' :: t ++ rest = '(' :: (s ++ ')' :: (t ++ rest)) := by simp
    rw [hwhole]
    simp only [Clause.balanced?, if_true, hinner, Option.map_map]
    congr 1
    funext p
    simp

/-- A value in parentheses ends where they are balanced. -/
theorem balanced?_close {s : Text} (hs : Balanced s) (rest : Text) :
    Clause.balanced? 0 (s ++ ')' :: rest) = some (s, rest) := by
  rw [hs.balanced?_append]
  simp [Clause.balanced?]

end Balanced

/-! ## What follows -/

namespace Clause

/-- The rest of a clause behind one of its parts: nothing, or a blank and the next key. -/
inductive Remainder : Text → Prop
  | done : Remainder []
  | more {c : Char} (hc : isKeyChar c = true) (r : Text) : Remainder (' ' :: c :: r)

theorem isBlank_of_isKeyChar {c : Char} (h : isKeyChar c = true) : isBlank c = false := by
  cases hb : isBlank c with
  | false => rfl
  | true =>
    simp only [isBlank, Bool.or_eq_true, beq_iff_eq] at hb
    rcases hb with rfl | rfl <;> cases h

theorem Remainder.head? {rest : Text} (h : Remainder rest) {c : Char} (hc : c ∈ rest.head?) :
    c = ' ' := by
  cases h with
  | done => cases hc
  | more => exact (Option.mem_some.1 hc).symm

/-- Without an equals sign there is no value. -/
theorem assigned_remainder {rest : Text} (h : Remainder rest) :
    assigned rest = .ok (none, rest) := by
  cases h with
  | done => rfl
  | @more c hc r =>
    have hc' := isBlank_of_isKeyChar hc
    have hblanks : dropBlanks (' ' :: c :: r) = c :: r := by
      show (c :: r).dropWhile isBlank = c :: r
      simp [hc']
    unfold assigned
    rw [hblanks]
    split
    · next heq =>
      cases heq
      cases hc
    · rfl

/-! ### Values -/

/-- A bare value goes up to the rest of the clause. -/
theorem value_bare {v rest : Text} (hne : v ≠ []) (hv : ∀ c ∈ v, isBlank c = false ∧ c ≠ '(')
    (hrest : Remainder rest) : value ('=' :: (v ++ rest)) = .ok (v, rest) := by
  obtain ⟨c, v, rfl⟩ := List.exists_cons_of_ne_nil hne
  obtain ⟨hc, hparen⟩ := hv c (List.mem_cons_self ..)
  have hblanks : dropBlanks (c :: v ++ rest) = c :: v ++ rest := by simp [dropBlanks, hc]
  have hbare : ∀ d ∈ c :: v, (!isBlank d) = true := fun d hd => by simp [(hv d hd).1]
  have hblank : ∀ d ∈ rest.head?, (!isBlank d) = false := fun d hd => by
    rw [hrest.head? hd]
    rfl
  obtain ⟨htake, hdrop⟩ := takeWhile_dropWhile_append rest hbare hblank
  show plainValue (dropBlanks (c :: v ++ rest)) = _
  rw [hblanks]
  unfold plainValue
  split
  · next heq => exact absurd (List.cons.inj heq).1 hparen
  · rw [htake, hdrop]

/-- A value in parentheses is what they enclose. -/
theorem plainValue_enclosed {v : Text} (hv : Balanced v) (rest : Text) :
    plainValue ('(' :: v ++ [')'] ++ rest) = .ok (v, rest) := by
  have hclose := hv.balanced?_close rest
  have hwhole : '(' :: v ++ [')'] ++ rest = '(' :: (v ++ ')' :: rest) := by simp
  rw [hwhole]
  simp only [plainValue, hclose]

theorem assigned_enclosed {v : Text} (hv : Balanced v) (rest : Text) :
    assigned ('=' :: '(' :: v ++ [')'] ++ rest) = .ok (some v, rest) := by
  show (plainValue ('(' :: v ++ [')'] ++ rest)).map _ = _
  rw [plainValue_enclosed hv rest]
  rfl

theorem value_enclosed {v : Text} (hv : Balanced v) (rest : Text) :
    value ('=' :: '(' :: v ++ [')'] ++ rest) = .ok (v, rest) :=
  plainValue_enclosed hv rest

/-- A number is a bare value. -/
theorem value_number {v rest : Text} (hne : v ≠ [])
    (hv : ∀ c ∈ v, isDigit c = true ∨ c = '-') (hrest : Remainder rest) :
    value ('=' :: (v ++ rest)) = .ok (v, rest) := by
  apply value_bare hne _ hrest
  intro c hc
  rcases hv c hc with hdigit | rfl
  · refine ⟨isBlank_of_isKeyChar (by simp [isKeyChar, hdigit]), ?_⟩
    rintro rfl
    cases hdigit
  · decide

theorem value_ofNat (n : Nat) {rest : Text} (hrest : Remainder rest) :
    value ('=' :: (ofNat n ++ rest)) = .ok (ofNat n, rest) :=
  value_number (ofNat_ne_nil n) (fun _ hc => .inl (isDigit_of_mem_ofNat hc)) hrest

theorem value_name (h : Highlight) {rest : Text} (hrest : Remainder rest) :
    value ('=' :: (h.name ++ rest)) = .ok (h.name, rest) := by
  have hne : h.name ≠ [] := by cases h <;> decide
  have hchars : (h.name.all fun c => !isBlank c && c != '(') = true := by cases h <;> decide
  exact value_bare hne (by simpa using hchars) hrest

/-- A key whose value is understood reads as its setting. -/
theorem setting_of_valued {key v rest rest' : Text} {x : Setting}
    {understand : Text → Except ClauseError Setting} (hflag : flag? key = none)
    (hkey : valued? key = some understand) (hv : value rest = .ok (v, rest'))
    (hx : understand v = .ok x) : setting key rest = .ok (some (x, rest')) := by
  simp only [setting, hflag, hkey, hv, hx]
  rfl

/-- The key of a separator reads as it. -/
theorem setting_of_assigned {separator : Option Text} {rest rest' : Text}
    (h : assigned rest = .ok (separator, rest')) :
    setting "group".toList rest = .ok (some (.group separator, rest')) := by
  have hflag : flag? "group".toList = none := rfl
  have hvalued : valued? "group".toList = none := rfl
  simp only [setting, hflag, hvalued, h, true_or, if_true]

theorem style_name (key : Text) (h : Highlight) : style key h.name = .ok h := by
  cases h <;> rfl

end Clause

/-! ## Settings -/

namespace Setting

/-- A setting that can be written: its number fits into its type, or its separator is balanced. -/
def IsWritable : Setting → Prop
  | .rounding (.places n) => -Nat.pow 2 31 ≤ n ∧ n < Nat.pow 2 31
  | .precision n | .width n => n < limit64
  | .digits n => 2 ≤ n ∧ n ≤ 4
  | .group (some separator) => Balanced separator
  | _ => True

/-- The key that the setting is written with. -/
def key : Setting → Text
  | .escape => "escape"
  | .rounding .floor => "floor"
  | .rounding .ceil => "ceil"
  | .rounding (.places _) => "round"
  | .precision _ => "precision"
  | .width _ => "width"
  | .digits _ => "digits"
  | .group _ => "group"
  | .least _ => "min"
  | .greatest _ => "max"

/-- What is written behind the key. -/
def tail : Setting → Text
  | .escape | .rounding .floor | .rounding .ceil | .group none => []
  | .rounding (.places n) => '=' :: ofInt n
  | .precision n | .width n | .digits n => '=' :: ofNat n
  | .group (some separator) => '=' :: '(' :: separator ++ [')']
  | .least h | .greatest h => '=' :: h.name

theorem write_eq (s : Setting) : s.write = s.key ++ s.tail := by
  cases s with
  | rounding r => cases r <;> rfl
  | group separator => cases separator <;> rfl
  | _ => rfl

/-- A key is not empty and has only letters and digits. -/
theorem exists_key_eq (s : Setting) :
    ∃ c k, s.key = c :: k ∧ Clause.isKeyChar c = true ∧ ∀ d ∈ k, Clause.isKeyChar d = true := by
  rcases s with _ | (_ | _ | _) | _ | _ | _ | _ | _ | _ <;>
    exact ⟨_, _, rfl, by decide, List.all_eq_true.1 (by decide)⟩

/-- The key of a setting selects no rows or columns. -/
theorem axis?_key (s : Setting) : Clause.axis? s.key = none := by
  rcases s with _ | (_ | _ | _) | _ | _ | _ | _ | _ | _ <;> rfl

/-- The key ends before what is written behind it. -/
theorem isKeyChar_head?_tail (s : Setting) {rest : Text} (hrest : Clause.Remainder rest) :
    ∀ c ∈ (s.tail ++ rest).head?, Clause.isKeyChar c = false := by
  have hblank : ∀ c ∈ rest.head?, Clause.isKeyChar c = false := by
    intro c hc
    rw [hrest.head? hc]
    decide
  rcases s with _ | (_ | _ | _) | _ | _ | _ | (_ | _) | _ | _
  all_goals first | exact hblank | exact fun c hc => Option.mem_some.1 hc ▸ by decide

/-- A setting is read as it is written. -/
theorem setting_key {s : Setting} (h : s.IsWritable) {rest : Text}
    (hrest : Clause.Remainder rest) :
    Clause.setting s.key (s.tail ++ rest) = .ok (some (s, rest)) := by
  have hchecked : ∀ {α : Type} {key v : Text} {read : Text → Option α} {a : α},
      read v = some a → Clause.checked key v read = .ok a := by
    intro α key v read a hread
    simp only [Clause.checked, hread]
  cases s with
  | escape => rfl
  | rounding r =>
    cases r with
    | floor => rfl
    | ceil => rfl
    | places n =>
      have hchars : ∀ c ∈ ofInt n, isDigit c = true ∨ c = '-' := fun _ =>
        isDigit_or_eq_of_mem_ofInt
      -- the words that a rounding may be given instead have letters
      have hfloor : ofInt n ≠ "floor".toList := fun heq =>
        absurd (hchars 'f' (heq ▸ by decide)) (by decide)
      have hceil : ofInt n ≠ "ceil".toList := fun heq =>
        absurd (hchars 'c' (heq ▸ by decide)) (by decide)
      have hread : int? (Nat.pow 2 31) (ofInt n) = some n := int?_ofInt h.1 h.2
      apply Clause.setting_of_valued rfl rfl
        (Clause.value_number (ofInt_ne_nil n) hchars hrest)
      rw [if_neg hfloor, if_neg hceil, hchecked hread]
      rfl
  | precision n =>
    apply Clause.setting_of_valued rfl rfl (Clause.value_ofNat n hrest)
    rw [hchecked (nat?_ofNat h)]
    rfl
  | width n =>
    apply Clause.setting_of_valued rfl rfl (Clause.value_ofNat n hrest)
    rw [hchecked (nat?_ofNat h)]
    rfl
  | digits n =>
    obtain ⟨hlow, hhigh⟩ : 2 ≤ n ∧ n ≤ 4 := h
    have hlimit : n < Nat.pow 2 32 := Nat.lt_of_le_of_lt hhigh (by decide)
    apply Clause.setting_of_valued rfl rfl (Clause.value_ofNat n hrest)
    rw [hchecked (nat?_ofNat hlimit)]
    exact if_pos ⟨hlow, hhigh⟩
  | group separator =>
    cases separator with
    | none => exact Clause.setting_of_assigned (Clause.assigned_remainder hrest)
    | some separator => exact Clause.setting_of_assigned (Clause.assigned_enclosed h rest)
  | least highlight =>
    apply Clause.setting_of_valued rfl rfl (Clause.value_name highlight hrest)
    rw [Clause.style_name]
    rfl
  | greatest highlight =>
    apply Clause.setting_of_valued rfl rfl (Clause.value_name highlight hrest)
    rw [Clause.style_name]
    rfl

end Setting

/-! ## Lists of settings -/

namespace Clause

/-- A key is taken up to a character that belongs to no key. -/
theorem nextKey_append {c : Char} {k rest : Text} (whole : Text) (hc : isKeyChar c = true)
    (hk : ∀ d ∈ k, isKeyChar d = true) (hrest : ∀ d ∈ rest.head?, isKeyChar d = false) :
    nextKey whole (c :: k ++ rest) = .ok (some (c :: k, rest)) := by
  have hblanks : dropBlanks (c :: k ++ rest) = c :: (k ++ rest) := by
    simp [dropBlanks, isBlank_of_isKeyChar hc]
  obtain ⟨htake, hdrop⟩ := takeWhile_dropWhile_append rest hk hrest
  simp only [nextKey, hblanks, hc, if_true, htake, hdrop]

/-- A blank before a key does not matter. -/
theorem nextKey_blank (whole s : Text) : nextKey whole (' ' :: s) = nextKey whole s := rfl

theorem settings_nil (whole : Text) : settings whole [] = .ok [] := by
  rw [settings]
  rfl

/-- Blanks in front of settings do not matter. -/
theorem settings_blank (whole s : Text) : settings whole (' ' :: s) = settings whole s := by
  rw [settings, settings]
  simp only [nextKey_blank]

/-- The first key begins the first setting. -/
theorem settings_of_nextKey {whole s key rest rest' : Text} {x : Setting}
    (hk : nextKey whole s = .ok (some (key, rest)))
    (hs : setting key rest = .ok (some (x, rest'))) :
    settings whole s = (settings whole rest').map (x :: ·) := by
  rw [settings]
  split
  · next he => cases hk.symm.trans he
  · next he => cases hk.symm.trans he
  · next he =>
    cases hk.symm.trans he
    split
    · next he => cases hs.symm.trans he
    · next he => cases hs.symm.trans he
    · next he =>
      cases hs.symm.trans he
      rfl

theorem settings_write {whole : Text} {s : Setting} (h : s.IsWritable) {rest : Text}
    (hrest : Remainder rest) :
    settings whole (s.write ++ rest) = (settings whole rest).map (s :: ·) := by
  obtain ⟨c, k, hkey, hc, hk⟩ := s.exists_key_eq
  -- the key ends in front of its value or, if it has none, in front of the rest
  have hnext := nextKey_append whole hc hk (s.isKeyChar_head?_tail hrest)
  rw [← hkey] at hnext
  rw [s.write_eq, List.append_assoc]
  exact settings_of_nextKey hnext (s.setting_key h hrest)

/-- What is written behind the first of some parts that begin with a key. -/
theorem remainder_flatMap {α : Type} {write : α → Text} {xs : List α}
    (h : ∀ x ∈ xs, ∃ c k, write x = c :: k ∧ isKeyChar c = true) :
    Remainder ((xs.map write).flatMap ([' '] ++ ·)) := by
  cases xs with
  | nil => exact .done
  | cons x xs =>
    obtain ⟨c, k, hx, hc⟩ := h x (List.mem_cons_self ..)
    rw [List.map_cons, List.flatMap_cons, hx]
    exact .more hc _

/-- A reader that takes one written part after the other reads all of them. -/
theorem read_join {α : Type} {write : α → Text} {reader : Text → Except ClauseError (List α)}
    {xs : List α} (hnil : reader [] = .ok []) (hblank : ∀ s, reader (' ' :: s) = reader s)
    (hbegin : ∀ x ∈ xs, ∃ c k, write x = c :: k ∧ isKeyChar c = true)
    (hstep : ∀ x ∈ xs, ∀ rest, Remainder rest →
      reader (write x ++ rest) = (reader rest).map (x :: ·)) :
    reader (join [' '] (xs.map write)) = .ok xs := by
  -- the parts behind the first one stand behind a blank each
  have hbehind : reader ((xs.map write).flatMap ([' '] ++ ·)) = .ok xs := by
    induction xs with
    | nil => exact hnil
    | cons x xs ih =>
      have hbegin' := fun y hy => hbegin y (List.mem_cons_of_mem x hy)
      have hrest := ih hbegin' fun y hy => hstep y (List.mem_cons_of_mem _ hy)
      rw [List.map_cons, List.flatMap_cons, List.append_assoc]
      show reader (' ' :: (write x ++ _)) = _
      rw [hblank, hstep x (List.mem_cons_self ..) _ (remainder_flatMap hbegin'), hrest]
      rfl
  cases xs with
  | nil => exact hnil
  | cons x xs =>
    rw [List.map_cons, join_cons, ← hbehind, List.map_cons, List.flatMap_cons, List.append_assoc]
    exact (hblank _).symm

/-- Settings that are written are read back. -/
theorem settings_join {xs : List Setting} (h : ∀ s ∈ xs, s.IsWritable) (whole : Text) :
    settings whole (join [' '] (xs.map Setting.write)) = .ok xs := by
  apply read_join (settings_nil whole) (settings_blank whole)
  · intro s hs
    obtain ⟨c, k, hkey, hc, -⟩ := s.exists_key_eq
    exact ⟨c, k ++ s.tail, by rw [s.write_eq, hkey]; rfl, hc⟩
  · exact fun s hs rest hrest => settings_write (h s hs) hrest

end Clause

/-! ## Items -/

/-- The numbers of a selector go up to its value. -/
theorem Clause.argument_write (rs : Ranges) (rest : Text) :
    argument (' ' :: (rs.write ++ '=' :: rest)) = (rs.write, '=' :: rest) := by
  have hchar : ∀ c ∈ rs.write, isArgumentChar c = true ∧ isBlank c = false := by
    intro c hc
    rcases Ranges.isDigit_or_eq_of_mem_write hc with hdigit | rfl | rfl
    · refine ⟨?_, isBlank_of_isKeyChar (by simp [isKeyChar, hdigit])⟩
      have hequals : c ≠ '=' := by rintro rfl; cases hdigit
      have hparen : c ≠ '(' := by rintro rfl; cases hdigit
      simp [isArgumentChar, hequals, hparen]
    · decide
    · decide
  have hblanks : dropBlanks (' ' :: (rs.write ++ '=' :: rest)) = rs.write ++ '=' :: rest := by
    show (rs.write ++ '=' :: rest).dropWhile isBlank = _
    cases hwrite : rs.write with
    | nil => rfl
    | cons c r => simp [(hchar c (hwrite ▸ List.mem_cons_self ..)).2]
  obtain ⟨htake, hdrop⟩ := takeWhile_dropWhile_append ('=' :: rest) (fun c hc => (hchar c hc).1)
    fun c hc => Option.mem_some.1 hc ▸ by decide
  simp only [argument, hblanks, htake, hdrop]

/-- What is written for a setting is balanced. -/
theorem Setting.balanced_write {s : Setting} (h : s.IsWritable) : Balanced s.write := by
  have hnumber : ∀ {v : Text}, (∀ c ∈ v, isDigit c = true ∨ c = '-') → Balanced v := by
    intro v hv
    apply Balanced.of_forall
    intro c hc
    rcases hv c hc with hdigit | rfl
    · constructor <;> (rintro rfl; cases hdigit)
    · decide
  have hofNat : ∀ n, Balanced (ofNat n) := fun n =>
    hnumber fun _ hc => .inl (isDigit_of_mem_ofNat hc)
  have hname : ∀ h : Highlight, Balanced h.name := fun h =>
    Balanced.of_all (by cases h <;> decide)
  cases s with
  | escape => exact Balanced.of_all (by decide)
  | rounding r =>
    cases r with
    | floor => exact Balanced.of_all (by decide)
    | ceil => exact Balanced.of_all (by decide)
    | places n =>
      exact (Balanced.of_all (by decide)).append (hnumber fun _ => isDigit_or_eq_of_mem_ofInt)
  | precision n => exact (Balanced.of_all (by decide)).append (hofNat n)
  | width n => exact (Balanced.of_all (by decide)).append (hofNat n)
  | digits n => exact (Balanced.of_all (by decide)).append (hofNat n)
  | group separator =>
    cases separator with
    | none => exact Balanced.of_all (by decide)
    | some separator =>
      have hparens : Balanced ('(' :: separator ++ ')' :: []) := .nested h .nil
      have hkey : Balanced "group=".toList := Balanced.of_all (by decide)
      exact hkey.append hparens
  | least highlight => exact (Balanced.of_all (by decide)).append (hname highlight)
  | greatest highlight => exact (Balanced.of_all (by decide)).append (hname highlight)

namespace ClauseItem

/-- An item that can be written. -/
def IsWritable : ClauseItem → Prop
  | .overall s => s.IsWritable
  | .lines _ ranges settings => ranges.IsWritable ∧ ∀ s ∈ settings, s.IsWritable

/-- The key that the item is written with. -/
def key : ClauseItem → Text
  | .overall s => s.key
  | .lines axis _ _ => axis.word

/-- What is written behind the key. -/
def tail : ClauseItem → Text
  | .overall s => s.tail
  | .lines _ ranges settings =>
    ' ' :: ranges.write ++ ('=' :: '(' :: join [' '] (settings.map Setting.write) ++ [')'])

theorem write_eq (x : ClauseItem) : x.write = x.key ++ x.tail := by
  cases x with
  | overall s => exact s.write_eq
  | lines axis ranges settings => simp [write, key, tail]

/-- A key is not empty and has only letters and digits. -/
theorem exists_key_eq (x : ClauseItem) :
    ∃ c k, x.key = c :: k ∧ Clause.isKeyChar c = true ∧ ∀ d ∈ k, Clause.isKeyChar d = true := by
  cases x with
  | overall s => exact s.exists_key_eq
  | lines axis ranges settings =>
    cases axis <;> exact ⟨_, _, rfl, by decide, List.all_eq_true.1 (by decide)⟩

/-- The key ends before what is written behind it. -/
theorem isKeyChar_head?_tail (x : ClauseItem) {rest : Text} (hrest : Clause.Remainder rest) :
    ∀ c ∈ (x.tail ++ rest).head?, Clause.isKeyChar c = false := by
  cases x with
  | overall s => exact s.isKeyChar_head?_tail hrest
  | lines axis ranges settings => exact fun c hc => Option.mem_some.1 hc ▸ by decide

/-- An item is read as it is written. -/
theorem item_key {x : ClauseItem} (h : x.IsWritable) {rest : Text}
    (hrest : Clause.Remainder rest) : Clause.item x.key (x.tail ++ rest) = .ok (x, rest) := by
  cases x with
  | overall s =>
    have haxis : Clause.axis? (overall s).key = none := s.axis?_key
    have hsetting : Clause.setting (overall s).key ((overall s).tail ++ rest) =
        .ok (some (s, rest)) := s.setting_key h hrest
    simp only [Clause.item, haxis, hsetting]
  | lines axis ranges settings =>
    obtain ⟨hranges, hsettings⟩ := h
    have haxis : Clause.axis? (lines axis ranges settings).key = some axis := by
      cases axis <;> rfl
    -- the settings of the selector are its value, which ends where its parentheses are balanced
    let inner := join [' '] (settings.map Setting.write)
    have hinner : Balanced inner := by
      apply Balanced.join
      intro x hx
      obtain ⟨s, hs, rfl⟩ := List.mem_map.1 hx
      exact Setting.balanced_write (hsettings s hs)
    have hargument : Clause.argument ((lines axis ranges settings).tail ++ rest) =
        (ranges.write, '=' :: '(' :: inner ++ [')'] ++ rest) := by
      have hwhole : (lines axis ranges settings).tail ++ rest =
          ' ' :: (ranges.write ++ ('=' :: '(' :: inner ++ [')'] ++ rest)) := by
        simp [tail, inner]
      rw [hwhole]
      exact Clause.argument_write ranges _
    simp only [Clause.item, haxis, hargument, Ranges.read_write hranges,
      Clause.value_enclosed hinner, inner, Clause.settings_join hsettings]
    rfl

end ClauseItem

/-! ## Clauses -/

namespace Clause

/-- A clause that can be written. -/
def IsWritable (c : Clause) : Prop := ∀ x ∈ c, x.IsWritable

theorem items_nil (whole : Text) : items whole [] = .ok [] := by
  rw [items]
  rfl

/-- Blanks in front of items do not matter. -/
theorem items_blank (whole s : Text) : items whole (' ' :: s) = items whole s := by
  rw [items, items]
  simp only [nextKey_blank]

/-- The first key begins the first item. -/
theorem items_of_nextKey {whole s key rest rest' : Text} {x : ClauseItem}
    (hk : nextKey whole s = .ok (some (key, rest))) (hi : item key rest = .ok (x, rest')) :
    items whole s = (items whole rest').map (x :: ·) := by
  rw [items]
  split
  · next he => cases hk.symm.trans he
  · next he => cases hk.symm.trans he
  · next he =>
    cases hk.symm.trans he
    split
    · next he => cases hi.symm.trans he
    · next he =>
      cases hi.symm.trans he
      rfl

theorem items_write {whole : Text} {x : ClauseItem} (h : x.IsWritable) {rest : Text}
    (hrest : Remainder rest) :
    items whole (x.write ++ rest) = (items whole rest).map (x :: ·) := by
  obtain ⟨c, k, hkey, hc, hk⟩ := x.exists_key_eq
  have hnext := nextKey_append whole hc hk (x.isKeyChar_head?_tail hrest)
  rw [← hkey] at hnext
  rw [x.write_eq, List.append_assoc]
  exact items_of_nextKey hnext (x.item_key h hrest)

/-- A clause that is written is read back. -/
theorem read_write {c : Clause} (h : c.IsWritable) : read c.write = .ok c := by
  apply read_join (items_nil _) (items_blank _)
  · intro x hx
    obtain ⟨d, k, hkey, hd, -⟩ := x.exists_key_eq
    exact ⟨d, k ++ x.tail, by rw [x.write_eq, hkey]; rfl, hd⟩
  · exact fun x hx rest hrest => items_write (h x hx) hrest

end Clause

end QueryWeave
