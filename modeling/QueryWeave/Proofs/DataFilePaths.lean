import Mathlib.Data.List.TakeWhile
import QueryWeave.Proofs.Places
import QueryWeave.Proofs.WrittenNumbers

/-!
# Data files on disk

The data file of a document stands beside it or beside the common target. Its name is made from the
name of the document and ends in a suffix that the name of a document cannot make up for, so that a
document never overwrites itself with its own data.

Main statement: `Tree.resolve_dataFile_ne`.
-/

namespace QueryWeave

open Text

/-! ## Paths -/

namespace Path

variable {p x dir : Path} {c n : Text}

theorem pieces_append (x y : Text) : pieces (x ++ '/' :: y) = pieces x ++ pieces y :=
  List.splitOnP_append_cons x y (by simp)

theorem pieces_ne_nil (p : Path) : pieces p ≠ [] := List.splitOn_ne_nil '/' p

theorem pieces_of_notMem (h : '/' ∉ c) : pieces c = [c] := List.splitOn_eq_singleton h

theorem components_append (x y : Text) :
    components (x ++ '/' :: y) = components x ++ components y := by
  rw [components, pieces_append, List.filter_append]
  rfl

theorem components_of_notMem (h : '/' ∉ c) (hstays : stays c = false) : components c = [c] := by
  simp [components, pieces_of_notMem h, hstays]

theorem components_below (h : '/' ∉ n) (hstays : stays n = false) :
    components (dir.below n) = dir.components ++ [n] := by
  unfold below
  split
  · next hdir =>
    subst hdir
    exact components_of_notMem h hstays
  · split
    · next hlast =>
      obtain ⟨x, rfl⟩ := List.getLast?_eq_some_iff.1 hlast
      have hx : components (x ++ ['/']) = components x := by
        rw [components_append]
        simp [components, pieces, stays]
      rw [List.append_assoc, List.singleton_append, components_append, hx,
        components_of_notMem h hstays]
    · rw [components_append, components_of_notMem h hstays]

theorem isAbsolute_below (hdir : dir ≠ []) : isAbsolute (dir.below n) = dir.isAbsolute := by
  cases dir with
  | nil => exact absurd rfl hdir
  | cons a dir =>
    unfold below isAbsolute
    simp only [reduceCtorEq, if_false]
    split <;> rfl

/-- A path that can name a file has a last name, and perhaps a directory in front of it. -/
theorem exists_of_namesDirectory (h : p.namesDirectory = false) : ∃ c, '/' ∉ c ∧ stays c = false ∧
    (p = c ∨ ∃ x, p = x ++ '/' :: c) := by
  unfold namesDirectory at h
  by_cases hp : '/' ∈ p
  · obtain ⟨rest, x, hrev, hc⟩ := List.eq_append_cons_of_mem (List.mem_reverse.2 hp)
    have hpx : p = x.reverse ++ '/' :: rest.reverse := by
      rw [← List.reverse_reverse p, hrev]
      simp
    have hc' : '/' ∉ rest.reverse := by simpa using hc
    rw [hpx, pieces_append, pieces_of_notMem hc', List.getLast?_append] at h
    exact ⟨rest.reverse, hc', by simpa using h, .inr ⟨_, hpx⟩⟩
  · rw [pieces_of_notMem hp] at h
    exact ⟨p, hp, by simpa using h, .inl rfl⟩

/-! ### Parents -/

/-- A name that moves is not dropped. -/
theorem dropStaying_append {ps : List Text} (hps : ps ≠ []) (hc : stays c = false) :
    dropStaying (ps ++ [c]) = ps ++ [c] := by
  cases ps with
  | nil => exact absurd rfl hps
  | cons first rest => simp [dropStaying, hc]

theorem filter_dropStaying (ps : List Text) :
    (dropStaying ps).filter (!stays ·) = ps.filter (!stays ·) := by
  cases ps with
  | nil => rfl
  | cons first rest =>
    have hrest : ∀ qs : List Text,
        (qs.dropWhile stays).filter (!stays ·) = qs.filter (!stays ·) := by
      intro qs
      induction qs with
      | nil => rfl
      | cons q qs ih => by_cases hq : stays q <;> simp [hq, ih]
    simp only [dropStaying, List.filter_cons, List.filter_reverse, hrest]
    simp

/-- A path is absolute if its first piece is empty and another one follows. -/
theorem isAbsolute_append_iff {first : Text} {rest : List Text} (hx : pieces x = first :: rest)
    (y : Text) : (x ++ '/' :: y).isAbsolute = decide (first = []) := by
  cases x with
  | nil =>
    obtain ⟨rfl, -⟩ := List.cons.inj (show [[]] = first :: rest from hx)
    rfl
  | cons a x =>
    rw [pieces, List.splitOn, List.splitOnP_cons_eq_if_modifyHead] at hx
    by_cases ha : a = '/'
    · subst ha
      simp only [beq_self_eq_true, if_true] at hx
      obtain ⟨rfl, -⟩ := List.cons.inj hx
      rfl
    · simp only [beq_iff_eq, ha, if_false] at hx
      have hfirst : first ≠ [] := by
        rintro rfl
        cases hs : x.splitOnP (· == '/') with
        | nil => exact List.splitOnP_ne_nil _ _ hs
        | cons q qs => simp [hs] at hx
      simp [isAbsolute, ha, hfirst]

/-- The path of some pieces, where an empty piece alone stands for the root. -/
theorem components_join {first : Text} {rest : List Text}
    (h : ∀ q ∈ first :: rest, '/' ∉ q) {q : Path}
    (hq : q = match first :: rest with
      | [[]] => ['/']
      | ps => join ['/'] ps) :
    q.components = (first :: rest).filter (!stays ·) ∧ q ≠ [] ∧
      q.isAbsolute = decide (first = []) := by
  split at hq
  · next heq =>
    cases heq
    subst hq
    decide
  · next ps hne =>
    subst hq
    refine ⟨by rw [components, pieces, splitOn_join (by simp) h], ?_⟩
    cases first with
    | nil =>
      cases rest with
      | nil => exact absurd rfl hne
      | cons r rest => exact ⟨by simp [join], rfl⟩
    | cons a first =>
      have ha : a ≠ '/' := by
        rintro rfl
        exact h _ (List.mem_cons_self ..) (List.mem_cons_self ..)
      rw [join_cons]
      exact ⟨by simp, by simp [isAbsolute, ha]⟩

/-- The directory in front of a last name. -/
theorem parent_append (h : '/' ∉ c) (hc : stays c = false) :
    (parent (x ++ '/' :: c)).components = x.components ∧ parent (x ++ '/' :: c) ≠ [] ∧
      (parent (x ++ '/' :: c)).isAbsolute = (x ++ '/' :: c).isAbsolute := by
  have hfront : dropStaying (dropStaying (pieces (x ++ '/' :: c))).dropLast =
      dropStaying (pieces x) := by
    rw [pieces_append, pieces_of_notMem h, dropStaying_append (pieces_ne_nil x) hc,
      List.dropLast_concat]
  have hparent : parent (x ++ '/' :: c) = match dropStaying (pieces x) with
      | [[]] => ['/']
      | ps => join ['/'] ps := by
    rw [← hfront]
    exact rfl
  have hpieces : ∀ q ∈ pieces x, '/' ∉ q := fun q hq hmem =>
    absurd (mem_splitOnP hq hmem).2 (by simp)
  cases hx : pieces x with
  | nil => exact absurd hx (pieces_ne_nil x)
  | cons first rest =>
    rw [hx] at hparent hpieces
    have hdrop : ∀ q ∈ (rest.reverse.dropWhile stays).reverse, q ∈ rest := fun q hq =>
      List.mem_reverse.1 ((List.dropWhile_suffix _).subset (List.mem_reverse.1 hq))
    have hnames : ∀ q ∈ first :: (rest.reverse.dropWhile stays).reverse, '/' ∉ q := by
      intro q hq
      rcases List.mem_cons.1 hq with rfl | hq
      · exact hpieces _ (List.mem_cons_self ..)
      · exact hpieces q (List.mem_cons_of_mem _ (hdrop q hq))
    obtain ⟨hcomponents, hne, habs⟩ := components_join hnames hparent
    refine ⟨?_, hne, ?_⟩
    · rw [hcomponents, components, hx]
      exact filter_dropStaying (first :: rest)
    · rw [habs, isAbsolute_append_iff hx]

theorem parent_of_notMem (h : '/' ∉ c) : parent c = [] := by
  simp [parent, pieces_of_notMem h, dropStaying, join]

/-- A path with another last name: the name stands in the same directory. -/
theorem exists_components_below_parent (hp : p.namesDirectory = false) (hslash : '/' ∉ n)
    (hn : stays n = false) :
    ∃ names c, '/' ∉ c ∧ stays c = false ∧ (p = c ∨ ∃ x, p = x ++ '/' :: c) ∧
      p.components = names ++ [c] ∧ (p.parent.below n).components = names ++ [n] ∧
      (p.parent.below n).isAbsolute = p.isAbsolute := by
  obtain ⟨c, hc, hstays, hp⟩ := exists_of_namesDirectory hp
  have hhead : ∀ {s : Text}, '/' ∉ s → isAbsolute s = false := by
    intro s hs
    cases s with
    | nil => rfl
    | cons a s => simpa [isAbsolute, eq_comm] using (not_or.1 (mt List.mem_cons.2 hs)).1
  rcases hp with rfl | ⟨x, rfl⟩
  · refine ⟨[], p, hc, hstays, .inl rfl, components_of_notMem hc hstays, ?_, ?_⟩
    · rw [parent_of_notMem hc]
      exact components_of_notMem hslash hn
    · rw [parent_of_notMem hc, hhead hc]
      exact hhead hslash
  · obtain ⟨hcomponents, hne, habs⟩ := parent_append (x := x) hc hstays
    refine ⟨x.components, c, hc, hstays, .inr ⟨x, rfl⟩, ?_, ?_, ?_⟩
    · rw [components_append, components_of_notMem hc hstays]
    · rw [components_below hslash hn, hcomponents]
    · rw [isAbsolute_below hne, habs]

end Path

/-! ## Names of data files -/

namespace DataFile

/-- The end of the name of a data file. -/
def nameEnd : Text := "-data.txt"

/-- The name of a data file is made from a stem. -/
theorem nameFor_eq (document : Text) : nameFor document =
    (if stem (lastName document) = [] ∨ stem (lastName document) = ['-'] then "stdin".toList
      else stem (lastName document)) ++ nameEnd := rfl

theorem notMem_lastName (document : Text) :
    '/' ∉ lastName document ∧ '\\' ∉ lastName document := by
  constructor
  all_goals
    intro h
    have hmem := List.mem_takeWhile_imp (List.mem_reverse.1 h)
    simp at hmem

/-- What is cut off a name begins with its last dot. -/
theorem exists_stem_append (s : Text) :
    ∃ suffix, s = stem s ++ suffix ∧ ∀ c, suffix.head? = some c → c = '.' := by
  have hwhole : ∃ suffix, s = s ++ suffix ∧ ∀ c, suffix.head? = some c → c = '.' :=
    ⟨[], by simp, by simp⟩
  unfold stem
  split
  · exact hwhole
  · exact hwhole
  · next before _ hcut =>
    obtain ⟨⟨a, b⟩, hfound, heq⟩ := Option.map_eq_some_iff.1 hcut
    cases heq
    obtain ⟨hs, -⟩ := cut?_eq_some_iff.1 hfound
    refine ⟨'.' :: a.reverse, ?_, by simp⟩
    rw [← List.reverse_reverse s, hs]
    simp

theorem notMem_nameFor (document : Text) :
    '/' ∉ nameFor document ∧ '\\' ∉ nameFor document := by
  obtain ⟨suffix, hstem, -⟩ := exists_stem_append (lastName document)
  obtain ⟨hslash, hbackslash⟩ := notMem_lastName document
  have hsub : ∀ c, c ∉ lastName document → c ∉ stem (lastName document) := by
    intro c hc hmem
    rw [hstem] at hc
    exact hc (List.mem_append_left _ hmem)
  rw [nameFor_eq]
  constructor
  all_goals
    rw [List.mem_append, not_or]
    refine ⟨?_, by decide⟩
    split
    · decide
    · first
      | exact hsub _ hslash
      | exact hsub _ hbackslash

/-- The last name of a path that has no other separator behind its last slash. -/
theorem lastName_eq {document c : Text} (hc : document = c ∨ ∃ x, document = x ++ '/' :: c)
    (hslash : '/' ∉ c) (hbackslash : '\\' ∉ c) : lastName document = c := by
  have hall : ∀ d ∈ c.reverse, (decide (d ≠ '/' ∧ d ≠ '\\')) = true := by
    intro d hd
    have hd := List.mem_reverse.1 hd
    simpa using ⟨fun h => hslash (h ▸ hd), fun h => hbackslash (h ▸ hd)⟩
  unfold lastName
  rcases hc with rfl | ⟨x, rfl⟩
  · rw [List.takeWhile_eq_self_iff.2 hall, List.reverse_reverse]
  · rw [List.reverse_append, List.reverse_cons, List.append_assoc,
      List.takeWhile_append_of_pos hall]
    simp

/-- No document is named like its own data file. -/
theorem nameFor_ne {document c : Text} (hc : document = c ∨ ∃ x, document = x ++ '/' :: c)
    (hslash : '/' ∉ c) : nameFor document ≠ c := by
  intro heq
  have hlast := lastName_eq hc hslash (heq ▸ (notMem_nameFor document).2)
  obtain ⟨suffix, hstem, hdot⟩ := exists_stem_append c
  rw [nameFor_eq, hlast] at heq
  split at heq
  · next hshort =>
    -- the name of the standard input begins neither with a dot nor with a dash
    rw [← heq] at hstem
    rcases hshort with h | h
    · rw [heq, h, List.nil_append] at hstem
      have hfirst := hdot 's' (by rw [← hstem, ← heq]; rfl)
      cases hfirst
    · rw [heq, h] at hstem
      rw [← heq] at hstem
      cases hstem
  · have hend : nameEnd = suffix := List.append_cancel_left (heq.trans hstem)
    have hfirst := hdot '-' (by rw [← hend]; rfl)
    cases hfirst

theorem nameFor_ne_of_length {document s : Text} (h : s.length < 9) : nameFor document ≠ s := by
  rintro rfl
  rw [nameFor_eq, List.length_append] at h
  exact absurd h (Nat.not_lt.2 (Nat.le_add_left 9 _))

theorem stays_nameFor (document : Text) : Path.stays (nameFor document) = false := by
  unfold Path.stays
  rw [Bool.or_eq_false_iff]
  exact ⟨decide_eq_false (nameFor_ne_of_length (by decide)),
    decide_eq_false (nameFor_ne_of_length (by decide))⟩

theorem isDash_below (dir : Path) (document : Text) :
    Step.isDash (dir.below (nameFor document)) = false := by
  have hcomponents : (dir.components ++ [nameFor document] == [['-']]) = false := by
    rw [beq_eq_false_iff_ne]
    intro h
    have hlast := congrArg List.getLast? h
    rw [List.getLast?_concat] at hlast
    exact nameFor_ne_of_length (by decide) (Option.some.inj hlast)
  unfold Step.isDash
  rw [Path.components_below (notMem_nameFor document).1 (stays_nameFor document), hcomponents]
  rfl

end DataFile

/-- The data file beside a document is another file. -/
theorem Tree.resolve_dataFile_ne {t : Tree} {p : Path} {place : Place}
    (hfile : p.namesDirectory = false) (hp : t.resolve p = .ok place) :
    t.resolve (p.parent.below (DataFile.nameFor p)) ≠ .ok place := by
  obtain ⟨names, c, hslash, -, hc, hcomponents, hbelow, habs⟩ :=
    Path.exists_components_below_parent hfile (DataFile.notMem_nameFor p).1
      (DataFile.stays_nameFor p)
  intro hdata
  obtain ⟨-, -, -, hp⟩ := resolve_eq_ok.1 hp
  obtain ⟨-, -, -, hdata⟩ := resolve_eq_ok.1 hdata
  rw [hcomponents] at hp
  rw [habs, hbelow] at hdata
  obtain ⟨q, hq, -, -, rfl⟩ := descend_append_eq_ok.1 hp
  obtain ⟨q', hq', -, -, hmove⟩ := descend_append_eq_ok.1 hdata
  cases hq.symm.trans hq'
  -- both names are taken in the same directory, and only the one of the document can lead upward
  have hup : DataFile.nameFor p ≠ upName := DataFile.nameFor_ne_of_length (by decide)
  rw [move, move, if_neg hup] at hmove
  split at hmove
  · have hlength := congrArg List.length hmove
    simp at hlength
  · exact DataFile.nameFor_ne hc hslash (List.singleton_inj.1 (List.append_cancel_left hmove)).symm

end QueryWeave
