import QueryWeave.Proofs.LineEnds
import QueryWeave.Proofs.WrittenNumbers

/-!
# Texts and bytes of documents

A document is written as text, with a newline after every line, and read from text or from bytes. A
text is a number of lines with a newline after each, and a rest without one (`line_induction`);
writing gives it back if the rest is empty and no line loses a carriage return.

Bytes are cut at the bytes of newlines before they are decoded. In UTF-8 no other character has such
a byte in it, so that the pieces are those of the text, and a document is read from the bytes of a
text and from no others.

Main statement: `Document.text_round_trips`.
-/

namespace QueryWeave

open Text

namespace Text

/-! ## Lines of a text -/

/-- What holds of a text without newlines, and of a line in front of a text of which it holds, holds
of every text. -/
theorem line_induction {motive : Text → Prop} (last : ∀ p, '\n' ∉ p → motive p)
    (line : ∀ p rest, '\n' ∉ p → motive rest → motive (p ++ '\n' :: rest)) (t : Text) :
    motive t := by
  -- the pieces of the text, one by one
  have pieces : ∀ ps : List Text, (∀ p ∈ ps, '\n' ∉ p) → motive (join ['\n'] ps) := by
    intro ps
    fun_induction join ['\n'] ps with
    | case1 => exact fun _ => last [] List.not_mem_nil
    | case2 p => exact fun h => last p (h p (List.mem_singleton_self p))
    | case3 p q ps ih =>
      intro h
      obtain ⟨hp, hps⟩ := List.forall_mem_cons.1 h
      rw [List.append_assoc]
      exact line p _ hp (ih hps)
  rw [← join_splitOn '\n' t]
  exact pieces _ fun p hp => newline_mem_splitOn hp

theorem lines_of_notMem {p : Text} (h : '\n' ∉ p) : lines p = if p = [] then [] else [p] := by
  rw [lines, List.splitOn_eq_singleton h]
  rfl

theorem lines_append_cons {p : Text} (h : '\n' ∉ p) (rest : Text) :
    lines (p ++ '\n' :: rest) = dropReturn p :: lines rest := by
  rw [lines, List.splitOn, List.splitOnP_append_cons _ _ (by decide), ← List.splitOn,
    ← List.splitOn, List.splitOn_eq_singleton h, lines]
  -- there is a piece after this one, so that the carriage return is taken off
  cases hrest : rest.splitOn '\n' with
  | nil => exact absurd hrest (List.splitOnP_ne_nil _ _)
  | cons q ps => rfl

/-- What stands in front of the first character of a kind, and what stands behind it, is told by the
text. -/
theorem append_cons_inj {c : Char} {a a' b b' : Text} (ha : c ∉ a) (ha' : c ∉ a') :
    a ++ c :: b = a' ++ c :: b' ↔ a = a' ∧ b = b' := by
  constructor
  · intro h
    -- both are what stands on the two sides of the first such character
    have hcut : cut? c (a ++ c :: b) = some (a, b) := cut?_eq_some_iff.2 ⟨rfl, ha⟩
    rw [h, cut?_eq_some_iff.2 ⟨rfl, ha'⟩] at hcut
    cases hcut
    exact ⟨rfl, rfl⟩
  · rintro ⟨rfl, rfl⟩
    rfl

/-- A line end of two characters stands in a text if a line ends in a carriage return. -/
theorem returnNewline_infix_iff {p : Text} (h : '\n' ∉ p) {rest : Text} :
    ['\r', '\n'] <:+: p ++ '\n' :: rest ↔
      p.getLast? = some '\r' ∨ ['\r', '\n'] <:+: rest := by
  have hnewline : ['\r', '\n'] <:+: '\n' :: rest ↔ ['\r', '\n'] <:+: rest := by
    rw [List.infix_cons_iff, or_iff_right]
    exact fun hbegins => absurd (List.cons_prefix_cons.1 hbegins).1 (by decide)
  induction p with
  | nil =>
    rw [List.nil_append, hnewline, List.getLast?_nil, or_iff_right nofun]
  | cons c p ih =>
    have hp : '\n' ∉ p := fun hmem => h (List.mem_cons_of_mem c hmem)
    rw [List.cons_append, List.infix_cons_iff, or_congr_right (ih hp), ← or_assoc]
    refine or_congr_left ?_
    cases p with
    | nil => simp [eq_comm]
    | cons d p =>
      -- behind a carriage return in the middle of the line comes no newline
      have hbegins : ¬ ['\r', '\n'] <+: c :: (d :: p ++ '\n' :: rest) := by
        intro hbegins
        obtain ⟨-, hbegins⟩ := List.cons_prefix_cons.1 hbegins
        exact hp ((List.cons_prefix_cons.1 hbegins).1 ▸ List.mem_cons_self ..)
      rw [or_iff_right hbegins, List.getLast?_cons_cons]

/-- A text is written as it was read just if a newline ends it and no carriage return stands before
a newline. -/
theorem unlines_lines_eq_iff (t : Text) :
    unlines (lines t) = t ↔ ¬ ['\r', '\n'] <:+: t ∧ (t = [] ∨ t.getLast? = some '\n') := by
  induction t using line_induction with
  | last p hp =>
    have hnone : ¬ ['\r', '\n'] <:+: p := fun hheld => hp (hheld.mem (by decide))
    rw [lines_of_notMem hp]
    split
    · next hnil => simp [hnil]
    · next hne =>
      -- a newline is added that the text does not have
      have hlast : p.getLast? ≠ some '\n' := fun h => hp (List.mem_of_getLast? h)
      simp [hne, hlast]
  | line p rest hp ih =>
    have hdrop : '\n' ∉ dropReturn p := fun h => hp (dropReturn_subset p h)
    have hrest : p ++ '\n' :: rest = [] ∨ (p ++ '\n' :: rest).getLast? = some '\n' ↔
        rest = [] ∨ rest.getLast? = some '\n' := by
      cases rest <;> simp
    rw [lines_append_cons hp, unlines_cons, append_cons_inj hdrop hp, ih, dropReturn_eq_self_iff,
      returnNewline_infix_iff hp, hrest, not_or, and_assoc]

/-! ## Bytes -/

/-- The bytes of a text one after the other. -/
def octets (s : Text) : List UInt8 := s.flatMap String.utf8EncodeChar

theorem octets_append (s t : Text) : octets (s ++ t) = octets s ++ octets t :=
  List.flatMap_append

theorem toByteArray_octets (s : Text) : (octets s).toByteArray = toUtf8 s := by
  rw [toUtf8, String.toByteArray_ofList]
  rfl

theorem data_eq_octets_iff {bytes : ByteArray} {s : Text} :
    bytes.data.toList = octets s ↔ bytes = toUtf8 s := by
  rw [← toByteArray_octets, ByteArray.ext_iff, List.data_toByteArray]
  exact ⟨fun h => by rw [← h], fun h => by rw [h]⟩

theorem octets_injective : Function.Injective octets := by
  intro s t h
  rw [← toUtf8_inj, ← toByteArray_octets, h, toByteArray_octets]

/-- No character but the newline has the byte of a newline in it. -/
theorem newline_of_mem_utf8EncodeChar {c : Char} (h : 10 ∈ String.utf8EncodeChar c) : c = '\n' := by
  -- a character of several bytes has the highest bit set in each of them
  have hhigh : ∀ n, 128 ≤ n → n < 256 → (10 : UInt8) ≠ UInt8.ofNat n := by
    intro n hle hlt h
    have hbyte : 10 = n % 2 ^ 8 := congrArg UInt8.toNat h
    omega
  unfold String.utf8EncodeChar at h
  simp only at h
  split at h
  · have hbyte : 10 = c.val.toNat % 2 ^ 8 := congrArg UInt8.toNat (List.mem_singleton.1 h)
    have hvalue : c.val.toNat = 10 := by omega
    exact Char.ext (UInt32.toNat_inj.1 hvalue)
  · split at h
    · simp only [List.mem_cons, List.not_mem_nil, or_false] at h
      rcases h with h | h <;> exact absurd h (hhigh _ (by omega) (by omega))
    · split at h
      · simp only [List.mem_cons, List.not_mem_nil, or_false] at h
        rcases h with h | h | h <;> exact absurd h (hhigh _ (by omega) (by omega))
      · simp only [List.mem_cons, List.not_mem_nil, or_false] at h
        rcases h with h | h | h | h <;> exact absurd h (hhigh _ (by omega) (by omega))

/-- Pieces with newlines between them have newline bytes between theirs. -/
theorem octets_join (ps : List Text) :
    octets (join ['\n'] ps) = [10].intercalate (ps.map octets) := by
  fun_induction join ['\n'] ps with
  | case1 => rfl
  | case2 p => simp [List.intercalate]
  | case3 p q ps ih =>
    rw [List.map_cons, List.map_cons, List.intercalate_cons_cons, ← List.map_cons, ← ih,
      octets_append, octets_append]
    rfl

theorem newline_notMem_octets {s : Text} (h : '\n' ∉ s) : 10 ∉ octets s := by
  intro hmem
  obtain ⟨c, hc, hbyte⟩ := List.mem_flatMap.1 hmem
  exact h (newline_of_mem_utf8EncodeChar hbyte ▸ hc)

/-- The bytes of the pieces are the pieces of the bytes. -/
theorem splitOn_octets (s : Text) : (octets s).splitOn 10 = (s.splitOn '\n').map octets := by
  have hpieces : ∀ bytes ∈ (s.splitOn '\n').map octets, 10 ∉ bytes := by
    intro bytes hbytes
    obtain ⟨p, hp, rfl⟩ := List.mem_map.1 hbytes
    exact newline_notMem_octets (newline_mem_splitOn hp)
  have hne : (s.splitOn '\n').map octets ≠ [] := by
    rw [ne_eq, List.map_eq_nil_iff]
    exact List.splitOnP_ne_nil _ _
  rw [← List.splitOn_intercalate 10 hpieces hne, ← octets_join, join_splitOn]

end Text

namespace Document

/-- Lines that are decoded one by one are the lines of a text that is decoded as a whole. -/
theorem ofUtf8?_eq_some_iff {bytes : ByteArray} {d : Document} :
    ofUtf8? bytes = some d ↔ ∃ t, bytes = toUtf8 t ∧ ofText t = d := by
  have hpiece : ∀ (piece : List UInt8) (p : Text),
      Text.ofUtf8? piece.toByteArray = some p ↔ piece = octets p := by
    intro piece p
    rw [Text.ofUtf8?_eq_some_iff, ← data_eq_octets_iff, List.data_toByteArray]
  have hpieces : ∀ ps, ((bytes.data.toList.splitOn 10).mapM fun piece =>
      Text.ofUtf8? piece.toByteArray) = some ps ↔ bytes.data.toList.splitOn 10 = ps.map octets := by
    intro ps
    rw [Option.mapM_eq_some_iff]
    simp only [hpiece]
    rw [← List.forall₂_map_right_iff, List.forall₂_eq_eq_eq]
  rw [ofUtf8?, Option.map_eq_some_iff]
  simp only [hpieces]
  constructor
  · rintro ⟨ps, hps, rfl⟩
    -- the pieces that were decoded are joined to the text, and are its pieces again
    have hbytes : bytes.data.toList = octets (join ['\n'] ps) := by
      rw [octets_join, ← hps, List.intercalate_splitOn]
    refine ⟨join ['\n'] ps, data_eq_octets_iff.1 hbytes, ?_⟩
    rw [hbytes, splitOn_octets] at hps
    rw [ofText, Text.lines, List.map_injective_iff.2 octets_injective hps]
  · rintro ⟨t, ht, rfl⟩
    refine ⟨t.splitOn '\n', ?_, rfl⟩
    rw [data_eq_octets_iff.2 ht, splitOn_octets]

/-- A document is read back from its text just if none of its lines has a newline or ends in a
carriage return; a text is written back as it was read just if no carriage return stands before a
newline and the text, if there is any, ends in a newline. The bytes of a text are read as the text
itself, and no other bytes are read; and a line, with the newline after it, starts at its offset,
behind the bytes of the lines before it. -/
theorem text_round_trips (d : Document) (t : Text) :
    (ofText d.toText = d ↔ ∀ line ∈ d.lines, '\n' ∉ line ∧ line.getLast? ≠ some '\r') ∧
    ((ofText t).toText = t ↔ ¬ ['\r', '\n'] <:+: t ∧ (t = [] ∨ t.getLast? = some '\n')) ∧
    ofUtf8? (toUtf8 t) = some (ofText t) ∧
    (∀ bytes, (ofUtf8? bytes).isSome ↔ ∃ s, bytes = toUtf8 s) ∧
    ∀ i line, d.get? i = some line →
      d.toText = toText ⟨d.lines.take i⟩ ++ (line ++ '\n' :: toText ⟨d.lines.drop (i + 1)⟩) ∧
        d.byteOffset i = (toUtf8 (toText ⟨d.lines.take i⟩)).size := by
  refine ⟨?_, unlines_lines_eq_iff t, ?_, fun bytes => ?_,
    fun i line h => ⟨toText_eq_append h, ?_⟩⟩
  · rw [ofText_toText_iff]
    simp only [isLine_iff]
  · exact ofUtf8?_eq_some_iff.2 ⟨t, rfl, rfl⟩
  · simp only [Option.isSome_iff_exists, ofUtf8?_eq_some_iff]
    exact ⟨fun ⟨_, s, hs, _⟩ => ⟨s, hs⟩, fun ⟨s, hs⟩ => ⟨ofText s, s, hs, rfl⟩⟩
  · rw [byteOffset_eq_utf8Size, size_toUtf8]
    rfl

/-- The third line begins at the sixth byte, behind a line of two characters in three bytes and an
empty one. -/
theorem text_round_trips_third_line :
    let d : Document := ⟨["é!".toList, [], "c".toList]⟩
    d.get? 2 = some "c".toList ∧ d.byteOffset 2 = 5 ∧
      d.toText = "é!\n\n".toList ++ "c\n".toList := by
  intro d
  have hline : d.get? 2 = some "c".toList := rfl
  obtain ⟨htext, hoffset⟩ := (text_round_trips d []).2.2.2.2 2 _ hline
  exact ⟨hline, hoffset.trans (by decide), htext⟩

end Document

end QueryWeave
