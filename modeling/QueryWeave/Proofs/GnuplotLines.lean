import QueryWeave.Proofs.Characters
import QueryWeave.Proofs.Splicing

/-!
# Gnuplot lines recognised again

An entry of a plot statement is read from the left: data file, index, perhaps a title, and then the
styling up to the *first* place where the entry can end. A styling that was kept is read again if it
does not look as if the entry ended in it, or as if it began with a title; then the entry is read
back whatever its title is, and whether the statement goes on after it or not.

Main statements: `Fragment.plotEntry?_entry`, for a whole statement
`Fragment.oldStatement_statement`, and `Fragment.isAssignment_macroLine`.
-/

namespace QueryWeave

open Text

/-! ## Stylings -/

namespace Gnuplot

/-- A styling that can be read back: it does not end in a blank or in what continues a statement,
and does not begin like a title. -/
structure Readable (style : Text) : Prop where
  blank : ∀ c, style.getLast? = some c → isBlank c = false
  mark : ¬ ", \\".toList <:+ style
  title : ¬ " title \"".toList <+: style

instance (style : Text) : Decidable (Readable style) :=
  decidable_of_iff ((style.getLast?.all fun c => !isBlank c) = true ∧
    ¬ ", \\".toList <:+ style ∧ ¬ " title \"".toList <+: style)
    (by
      refine ⟨fun ⟨hblank, hmark, htitle⟩ => ⟨fun c hc => ?_, hmark, htitle⟩,
        fun h => ⟨?_, h.mark, h.title⟩⟩
      · rw [hc, Option.all_some] at hblank
        cases hblank' : isBlank c with
        | false => rfl
        | true => rw [hblank'] at hblank; cases hblank
      · rw [Option.all_eq_true]
        intro c hc
        rw [h.blank c hc]
        rfl)

/-- A styling whose end is found again: it does not end in a blank or in what continues a
statement. -/
structure EndsPlainly (style : Text) : Prop where
  blank : ∀ c, style.getLast? = some c → isBlank c = false
  mark : ¬ ", \\".toList <:+ style

theorem Readable.endsPlainly {style : Text} (h : Readable style) : EndsPlainly style :=
  ⟨h.blank, h.mark⟩

theorem EndsPlainly.of_cons {c : Char} {style : Text} (h : EndsPlainly (c :: style)) :
    EndsPlainly style where
  blank d hd := h.blank d (by
    cases style with
    | nil => cases hd
    | cons e style => simpa using hd)
  mark hsuffix := h.mark (hsuffix.trans (List.suffix_cons ..))

/-- A styling that a statement can have: a space, and then the rest of one line. -/
def IsStyle (style : Text) : Prop := ∃ rest, style = ' ' :: rest ∧ '\n' ∉ rest

/-- The end of an entry that continues the statement, or of the last one. -/
def entryEnd (continued : Bool) : Text := if continued then continuationMark else []

theorem isStyle_usualStyle : IsStyle usualStyle := ⟨"with linespoints".toList, rfl, by decide⟩

theorem readable_usualStyle : Readable usualStyle where
  blank := by
    intro c hc
    cases hc
    rfl
  mark := by decide
  title := by decide

/-! ## Names of variables -/

/-- A letter or an underscore, and then letters, digits and underscores. -/
def IsIdentifier (s : Text) : Prop :=
  ∃ c rest, s = c :: rest ∧ (isLetter c = true ∨ c = '_') ∧
    ∀ d ∈ rest, isLetter d = true ∨ isDigit d = true ∨ d = '_'

theorem isNameChar_iff {c : Char} :
    isNameChar c = true ↔ isLetter c = true ∨ isDigit c = true ∨ c = '_' := by
  simp [isNameChar, or_assoc]

/-- What is left of the name of a column can be the name of a variable. -/
theorem isIdentifier_of_macroName {column name : Text} (h : macroName column = .ok name) :
    IsIdentifier name := by
  have hfilter : ∀ c ∈ column.filter isNameChar, isNameChar c = true := fun c hc =>
    (List.mem_filter.1 hc).2
  unfold macroName at h
  split at h
  · cases h
  · next c rest hcs =>
    rw [hcs] at hfilter
    cases h
    split
    · -- a digit cannot be the first character, but any other one
      exact ⟨'_', c :: rest, rfl, .inr rfl, fun d hd => isNameChar_iff.1 (hfilter d hd)⟩
    · next hdigit =>
      refine ⟨c, rest, rfl, ?_, fun d hd =>
        isNameChar_iff.1 (hfilter d (List.mem_cons_of_mem _ hd))⟩
      rcases isNameChar_iff.1 (hfilter c (List.mem_cons_self ..)) with hc | hc | hc
      · exact .inl hc
      · exact absurd hc hdigit
      · exact .inr hc

end Gnuplot

namespace Fragment

open Gnuplot

/-- An entry can end where nothing but its end follows. -/
private theorem entryEnd?_entryEnd (continued : Bool) :
    entryEnd? (entryEnd continued) = some continued := by
  cases continued with
  | true => rfl
  | false => rfl

/-- An entry cannot end inside of a styling that neither ends in a blank nor in what continues a
statement. -/
private theorem entryEnd?_append {style : Text} (hne : style ≠ []) (hend : EndsPlainly style)
    (continued : Bool) : entryEnd? (style ++ entryEnd continued) = none := by
  have hlast : isBlank (style.getLast hne) = false :=
    hend.blank _ (List.getLast?_eq_some_getLast hne)
  have hmem : style.getLast hne ∈ style ++ entryEnd continued :=
    List.mem_append_left _ (List.getLast_mem hne)
  have hall : (style ++ entryEnd continued).all isBlank = false := by
    rw [List.all_eq_false]
    exact ⟨_, hmem, by simp [hlast]⟩
  simp only [entryEnd?, hall, Bool.false_eq_true, if_false]
  split
  · next r hr =>
    have heq : style ++ entryEnd continued = ", \\".toList ++ r := after?_eq_some_iff.1 hr
    split
    · next hblanks =>
      -- blanks after the mark would be the end of the styling, or the end of another mark
      exfalso
      cases continued with
      | false =>
        rw [entryEnd, if_neg (by decide), List.append_nil] at heq
        cases r with
        | nil => exact hend.mark ⟨[], heq.symm⟩
        | cons c r =>
          -- the last blank is the last character of the styling
          have hlast' : style.getLast? = (c :: r).getLast? := by
            rw [heq, List.getLast?_append]
            simp [List.getLast?_cons]
          have hblank' := hend.blank _ (hlast'.trans (List.getLast?_eq_some_getLast (by simp)))
          rw [List.all_eq_true.1 hblanks _ (List.getLast_mem (by simp))] at hblank'
          cases hblank'
      | true =>
        have hback : (style ++ entryEnd true).getLast? = some '\\' := by
          rw [List.getLast?_append]
          rfl
        cases r with
        | nil =>
          -- nothing would be left for the styling
          have hlength := congrArg List.length heq
          have hpos : 0 < style.length := List.length_pos_iff.2 hne
          have hmarkLength : (entryEnd true).length = ", \\".toList.length := rfl
          simp only [List.length_append, hmarkLength, List.length_nil] at hlength
          omega
        | cons c r =>
          -- the last blank is the backslash of the other mark
          rw [heq, List.getLast?_append] at hback
          simp only [List.getLast?_eq_some_getLast (List.cons_ne_nil c r), Option.some_or,
            Option.some.injEq] at hback
          have hblank' := List.all_eq_true.1 hblanks _ (List.getLast_mem (List.cons_ne_nil c r))
          rw [hback] at hblank'
          exact absurd hblank' (by decide)
    · rfl
  · rfl

/-- A character belongs to the styling where the entry does not end. -/
theorem styling?_cons {c : Char} {s : Text} (h : entryEnd? (c :: s) = none) (hc : c ≠ '\n') :
    styling? (c :: s) = (styling? s).map fun e => ⟨c :: e.style, e.continued⟩ := by
  rw [styling?, h]
  simp only [hc, if_false]
  cases styling? s <;> rfl

/-- A styling is read up to the end of its entry. -/
private theorem styling?_append {style : Text} (hline : '\n' ∉ style) (hend : EndsPlainly style)
    (continued : Bool) :
    styling? (style ++ entryEnd continued) = some ⟨style, continued⟩ := by
  induction style with
  | nil =>
    rw [List.nil_append]
    unfold styling?
    rw [entryEnd?_entryEnd]
  | cons c style ih =>
    -- the entry does not end before `c`, so `c` belongs to its styling
    have hnone := entryEnd?_append (List.cons_ne_nil c style) hend continued
    simp only [List.mem_cons, not_or] at hline
    have hrest := ih hline.2 hend.of_cons
    rw [List.cons_append] at hnone ⊢
    rw [styling?_cons hnone (Ne.symm hline.1), hrest]
    rfl

/-- A styling that was kept starts with a space, and is in one line. -/
theorem isStyle_of_spacedStyling? {s : Text} {e : PlotEntry} (h : spacedStyling? s = some e) :
    IsStyle e.style := by
  have newline : ∀ (t : Text) (e : PlotEntry), styling? t = some e → '\n' ∉ e.style := by
    intro t
    induction t with
    | nil =>
      intro e he
      cases he
      exact List.not_mem_nil
    | cons c t ih =>
      intro e he
      unfold styling? at he
      split at he
      · cases he
        exact List.not_mem_nil
      · simp only at he
        split at he
        · cases he
        · next hc =>
          split at he
          · next e' he' =>
            cases he
            simp only [List.mem_cons, not_or]
            exact ⟨fun h => hc h.symm, ih e' he'⟩
          · cases he
  unfold spacedStyling? at h
  split at h
  · split at h
    · next e' he' =>
      cases h
      exact ⟨e'.style, rfl, newline _ _ he'⟩
    · cases h
  · cases h

/-- A styling that ends plainly is read up to the end of its entry. -/
theorem spacedStyling?_append {style : Text} (hs : IsStyle style) (hend : EndsPlainly style)
    (continued : Bool) :
    spacedStyling? (style ++ entryEnd continued) = some ⟨style, continued⟩ := by
  obtain ⟨rest, rfl, hline⟩ := hs
  have hrest := styling?_append hline hend.of_cons continued
  simp only [List.cons_append, spacedStyling?, hrest]

/-! ## Titles -/

/-- The inside of a double-quoted string as it is written: a quote in it stands behind a backslash,
and a backslash takes one character of its line along. -/
inductive IsInside : Text → Prop
  | nil : IsInside []
  | plain {c : Char} {s : Text} : c ≠ '"' → c ≠ '\\' → IsInside s → IsInside (c :: s)
  | taken {c : Char} {s : Text} : c ≠ '\n' → IsInside s → IsInside ('\\' :: c :: s)

@[simp] theorem afterString?_quote (s : Text) : afterString? ('"' :: s) = some s := by
  cases s <;> rfl

theorem afterString?_plain {c : Char} (hquote : c ≠ '"') (hback : c ≠ '\\') (s : Text) :
    afterString? (c :: s) = afterString? s := by
  cases s with
  | nil => simp [afterString?]
  | cons d s => simp only [afterString?, hquote, hback, if_false]

theorem afterString?_taken {c : Char} (h : c ≠ '\n') (s : Text) :
    afterString? ('\\' :: c :: s) = afterString? s := by
  simp [afterString?, h]

/-- A string ends at the first quote that no backslash takes along. -/
theorem afterString?_eq_some_iff {s rest : Text} :
    afterString? s = some rest ↔ ∃ t, IsInside t ∧ s = t ++ '"' :: rest := by
  constructor
  · intro h
    fun_induction afterString? s with
    | case1 => cases h
    | case2 =>
      cases h
      exact ⟨[], .nil, rfl⟩
    | case3 => cases h
    | case4 d s =>
      cases h
      exact ⟨[], .nil, rfl⟩
    | case5 => cases h
    | case6 d s hd _ ih =>
      obtain ⟨t, ht, rfl⟩ := ih h
      exact ⟨'\\' :: d :: t, .taken hd ht, rfl⟩
    | case7 c d s hquote hback ih =>
      obtain ⟨t, ht, heq⟩ := ih h
      exact ⟨c :: t, .plain hquote hback ht, by rw [heq, List.cons_append]⟩
  · rintro ⟨t, ht, rfl⟩
    induction ht with
    | nil => exact afterString?_quote rest
    | plain hquote hback _ ih => rw [List.cons_append, afterString?_plain hquote hback, ih]
    | taken hc _ ih => rw [List.cons_append, List.cons_append, afterString?_taken hc, ih]

instance (t : Text) : Decidable (IsInside t) :=
  decidable_of_iff (afterString? (t ++ ['"']) = some []) <| by
    rw [afterString?_eq_some_iff]
    refine ⟨?_, fun h => ⟨t, h, rfl⟩⟩
    rintro ⟨t', h, heq⟩
    rwa [List.append_cancel_right heq]

/-- Any text can stand in a string. -/
theorem isInside_gnuplotEscape (t : Text) : IsInside (gnuplotEscape t) := by
  induction t with
  | nil => exact .nil
  | cons c t ih =>
    have hcons : gnuplotEscape (c :: t) =
        (if (c == '\\' || c == '"') = true then ['\\', c] else [c]) ++ gnuplotEscape t := rfl
    rw [hcons]
    split
    · next hc =>
      -- what stands behind the backslash is no newline
      refine .taken ?_ ih
      rintro rfl
      simp at hc
    · next hc =>
      simp only [Bool.or_eq_true, beq_iff_eq, not_or] at hc
      exact .plain hc.2 hc.1 ih

/-- A title is read up to its closing quote, whatever it says. -/
theorem afterString?_gnuplotEscape (t rest : Text) :
    afterString? (gnuplotEscape t ++ '"' :: rest) = some rest :=
  afterString?_eq_some_iff.2 ⟨_, isInside_gnuplotEscape t, rfl⟩

/-! ## Entries -/

@[simp] theorem plotEntry?_indented (n : Nat) (line : Text) :
    plotEntry? (Document.indented n line) = plotEntry? line := by
  simp only [ plotEntry?, afterIndex?, dropBlanks_indented]

/-- The name of the data file goes up to the next quote, and the index as far as there
are digits. -/
theorem afterIndex?_append {blanks file index : Text} (hblanks : ∀ c ∈ blanks, isBlank c = true)
    (hfile : file ≠ []) (hquote : '\'' ∉ file) (hne : index ≠ [])
    (hindex : ∀ c ∈ index, isDigit c = true) (rest : Text) :
    afterIndex? (blanks ++ '\'' :: (file ++ '\'' :: (" index ".toList ++ (index ++ rest)))) =
      some (rest.dropWhile isDigit) := by
  have hdrop : dropBlanks (blanks ++
      '\'' :: (file ++ '\'' :: (" index ".toList ++ (index ++ rest)))) =
        '\'' :: (file ++ '\'' :: (" index ".toList ++ (index ++ rest))) :=
    List.dropWhile_append_of_pos hblanks
  have hcut : cut? '\'' (file ++ '\'' :: (" index ".toList ++ (index ++ rest))) =
      some (file, " index ".toList ++ (index ++ rest)) := cut?_eq_some_iff.2 ⟨rfl, hquote⟩
  have hempty : ((index ++ rest).takeWhile isDigit).isEmpty = false := by
    rw [List.takeWhile_append_of_pos hindex, List.isEmpty_eq_false_iff]
    exact List.append_ne_nil_of_left_ne_nil hne _
  obtain ⟨c, name, rfl⟩ := List.exists_cons_of_ne_nil hfile
  simp only [afterIndex?, hdrop, hcut, after?_append, hempty, Bool.false_eq_true, if_false,
    List.dropWhile_append_of_pos hindex]

/-- What an entry says after its index. -/
private theorem afterIndex?_entry {file rest : Text} (hfile : file ≠ []) (hquote : '\'' ∉ file)
    (index : Nat) (hrest : ∀ c, rest.head? = some c → isDigit c = false) :
    afterIndex? ("    '".toList ++ file ++ "' index ".toList ++ ofNat index ++ rest) =
      some rest := by
  have hdigits : ∀ c ∈ ofNat index, isDigit c = true := fun c hc => isDigit_of_mem_ofNat hc
  have hblanks : ∀ c ∈ fill 4 ' ', isBlank c = true := List.all_eq_true.1 (by decide)
  have hindex := afterIndex?_append hblanks hfile hquote Nat.toDigits_ne_nil hdigits rest
  have hdrop : rest.dropWhile isDigit = rest := by
    cases rest with
    | nil => rfl
    | cons c rest => exact List.dropWhile_cons_of_neg (by simp [hrest c rfl])
  rw [hdrop] at hindex
  simp only [List.append_assoc]
  exact hindex

/-- A title does not begin in a styling, nor where it ends. -/
private theorem after?_title_eq_none {style : Text} (h : ¬ " title \"".toList <+: style)
    (continued : Bool) : after? " title \"".toList (style ++ entryEnd continued) = none := by
  cases hafter : after? " title \"".toList (style ++ entryEnd continued) with
  | none => rfl
  | some r =>
    exfalso
    have heq : style ++ entryEnd continued = " title \"".toList ++ r :=
      after?_eq_some_iff.1 hafter
    rcases List.append_eq_append_iff.1 heq with ⟨m, hword, hm⟩ | ⟨m, hstyle, -⟩
    · cases m with
      | nil => exact h ⟨[], by rw [List.append_nil, hword, List.append_nil]⟩
      | cons c m =>
        cases continued with
        | false => cases hm
        | true =>
          -- the title would reach over the comma, which its word does not have
          have hc : ',' = c := (List.cons.inj hm).1
          have hmem : ',' ∈ " title \"".toList := by
            rw [hword, hc]
            exact List.mem_append_right _ (List.mem_cons_self ..)
          simp at hmem
    · exact h ⟨m, hstyle.symm⟩

/-- An entry is read back: its styling, and whether the statement goes on. A styling may begin like
a title behind the title of the entry. -/
theorem plotEntry?_entry {file style : Text} (hfile : file ≠ []) (hquote : '\'' ∉ file)
    (hs : IsStyle style) (hend : EndsPlainly style) {d : DataSet}
    (htitle : d.title = none → ¬ " title \"".toList <+: style) (continued : Bool) :
    plotEntry? (entry file d style ++ entryEnd continued) = some ⟨style, continued⟩ := by
  have hstyling := spacedStyling?_append hs hend continued
  obtain ⟨styling, hstyle, -⟩ := hs
  have hindex : afterIndex? (entry file d style ++ entryEnd continued) =
      some (titlePart d.title ++ style ++ entryEnd continued) := by
    have hassoc : entry file d style ++ entryEnd continued =
        "    '".toList ++ file ++ "' index ".toList ++ ofNat d.index ++
          (titlePart d.title ++ style ++ entryEnd continued) := by
      unfold entry
      simp only [List.append_assoc]
    rw [hassoc]
    apply afterIndex?_entry hfile hquote d.index
    intro c hc
    -- a title and a styling both start with a space
    have hspace : (titlePart d.title ++ style ++ entryEnd continued).head? = some ' ' := by
      rw [hstyle]
      cases d.title with
      | none => rfl
      | some t => rfl
    rw [hspace] at hc
    cases hc
    decide
  simp only [ plotEntry?, hindex]
  cases ht : d.title with
  | none =>
    have hnone : titlePart none ++ style ++ entryEnd continued = style ++ entryEnd continued := rfl
    simp only [hnone, after?_title_eq_none (htitle ht) continued, Option.bind_none, hstyling]
  | some t =>
    have hpart : titlePart (some t) ++ style ++ entryEnd continued =
        " title \"".toList ++ (gnuplotEscape t ++ '"' :: (style ++ entryEnd continued)) := by
      show (" title \"".toList ++ gnuplotEscape t ++ ['"']) ++ style ++ entryEnd continued = _
      simp only [List.append_assoc, List.cons_append, List.nil_append]
    simp only [hpart, after?_append, Option.bind_some, afterString?_gnuplotEscape, hstyling]

/-! ## Statements -/

/-- The first line of a statement is recognised. -/
theorem isPlotHeader_plotHeader (n : Nat) :
    isPlotHeader (Document.indented n plotHeader) = true := by
  simp only [isPlotHeader, dropBlanks_indented]
  decide

/-- The lines of a statement below its first line, and of which styling each of them is. -/
private def entryLines (file : Text) (sets : List (DataSet × Option Text)) : List Text :=
  continued (sets.map fun (d, style) => entry file d (style.getD usualStyle))

/-- The entries of a statement are read back, and nothing after the last of them. -/
private theorem plotEntries_entryLines {file : Text} (hfile : file ≠ []) (hquote : '\'' ∉ file)
    (indent : Nat) (others : List Text) {sets : List (DataSet × Option Text)} (hne : sets ≠ [])
    (hs : ∀ c ∈ sets, IsStyle (c.2.getD usualStyle) ∧ Readable (c.2.getD usualStyle)) :
    (plotEntries ((entryLines file sets).map (Document.indented indent) ++ others)).map
      PlotEntry.style = sets.map fun c => c.2.getD usualStyle := by
  induction sets with
  | nil => exact absurd rfl hne
  | cons c sets ih =>
    obtain ⟨hstyle, hread⟩ := hs c (List.mem_cons_self ..)
    cases sets with
    | nil =>
      -- the last entry has no mark, so the reading stops
      have hentry := plotEntry?_entry hfile hquote hstyle hread.endsPlainly
        (fun _ : c.1.title = none => hread.title) false
      rw [entryEnd, if_neg (by decide), List.append_nil, ← plotEntry?_indented indent] at hentry
      have hlines : (entryLines file [c]).map (Document.indented indent) ++ others =
          Document.indented indent (entry file c.1 (c.2.getD usualStyle)) :: others := rfl
      simp only [hlines, plotEntries, hentry, Bool.false_eq_true, if_false]
      rfl
    | cons c' sets =>
      -- the mark of an entry tells that another one follows
      have hentry := plotEntry?_entry hfile hquote hstyle hread.endsPlainly
        (fun _ : c.1.title = none => hread.title) true
      rw [entryEnd, if_pos rfl, ← plotEntry?_indented indent] at hentry
      have hlines : (entryLines file (c :: c' :: sets)).map (Document.indented indent) ++ others =
          Document.indented indent (entry file c.1 (c.2.getD usualStyle) ++ continuationMark) ::
            ((entryLines file (c' :: sets)).map (Document.indented indent) ++ others) := rfl
      have hrest := ih (List.cons_ne_nil c' sets) fun x hx => hs x (List.mem_cons_of_mem _ hx)
      simp only [hlines, plotEntries, hentry, if_true, List.map_cons, hrest]

private theorem length_continued (lines : List Text) :
    (continued lines).length = lines.length := by
  fun_induction continued lines with
  | case1 => rfl
  | case2 => rfl
  | case3 line next rest ih => simp only [List.length_cons, ih]

/-- A statement with data sets is read back: its stylings, and the number of its lines. -/
theorem oldStatement_statement {file : Text} (hfile : file ≠ []) (hquote : '\'' ∉ file)
    (indent : Nat) (others : List Text) {sets : List (DataSet × Option Text)} (hne : sets ≠ [])
    (hs : ∀ c ∈ sets, IsStyle (c.2.getD usualStyle) ∧ Readable (c.2.getD usualStyle)) :
    oldStatement ((statement file sets).map (Document.indented indent) ++ others) =
      (sets.map fun c => c.2.getD usualStyle, (statement file sets).length) := by
  have hentries := plotEntries_entryLines hfile hquote indent others hne hs
  have hstatement : statement file sets = plotHeader :: entryLines file sets := by
    cases sets with
    | nil => exact absurd rfl hne
    | cons c sets => rfl
  have hcount := congrArg List.length hentries
  simp only [List.length_map] at hcount
  have hlength : (entryLines file sets).length = sets.length := by
    rw [entryLines, length_continued, List.length_map]
  rw [hstatement]
  simp only [List.map_cons, List.cons_append, oldStatement, isPlotHeader_plotHeader, if_true,
    hentries, hcount, List.length_cons, hlength]

/-! ## Assignments -/

/-- The name of a variable is not empty, and has only characters that a name can have. -/
theorem isNameChar_of_mem_macroName {column name : Text} (h : macroName column = .ok name) :
    name ≠ [] ∧ ∀ c ∈ name, isNameChar c = true := by
  obtain ⟨c, rest, rfl, hc, hrest⟩ := isIdentifier_of_macroName h
  refine ⟨List.cons_ne_nil _ _, fun d hd => isNameChar_iff.2 ?_⟩
  rcases List.mem_cons.1 hd with rfl | hd
  · exact hc.imp_right .inr
  · exact hrest d hd

private theorem newline_mem_macroValue {value : Text} (hv : '\n' ∉ value) :
    '\n' ∉ macroValue value := by
  unfold macroValue
  split
  · -- a number stands as it is
    exact hv
  · -- another value stands between quotes, and its own quotes are doubled
    intro hmem
    rcases List.mem_cons.1 hmem with heq | hmem
    · simp at heq
    · rcases List.mem_append.1 hmem with hmem | heq
      · obtain ⟨c, hc, hmem⟩ := List.mem_flatMap.1 hmem
        split at hmem
        · next hq =>
          simp only [List.mem_cons, List.not_mem_nil, or_false, or_self] at hmem
          simp at hmem
        · cases List.mem_singleton.1 hmem
          exact hv hc
      · exact absurd (List.mem_singleton.1 heq) (by decide)

/-- An assignment of one line is recognised at any indentation. -/
theorem isAssignment_macroLine {m : Macro} {line : Text} (h : macroLine m = .ok line)
    (hv : '\n' ∉ m.value) (n : Nat) : isAssignment (Document.indented n line) = true := by
  obtain ⟨name, hname, rfl⟩ := Except.map_eq_ok h
  obtain ⟨hne, hchars⟩ := isNameChar_of_mem_macroName hname
  -- so that the name ends where it is assigned to
  have hequals : '=' ∉ name := fun hmem => absurd (hchars _ hmem) (by decide)
  have hvalue := newline_mem_macroValue hv
  have hline : Document.indented n (name ++ " = ".toList ++ macroValue m.value) =
      (Document.indented n name ++ [' ']) ++ '=' :: ' ' :: macroValue m.value := by
    simp only [Document.indented, List.append_assoc]
    rfl
  have hcut : cut? '=' (Document.indented n (name ++ " = ".toList ++ macroValue m.value)) =
      some (Document.indented n name ++ [' '], ' ' :: macroValue m.value) := by
    refine cut?_eq_some_iff.2 ⟨hline, ?_⟩
    simp only [Document.indented, fill, List.mem_append, List.mem_replicate, List.mem_singleton,
      hequals, or_false, not_or]
    exact ⟨fun hmem => absurd hmem.2 (by decide), by decide⟩
  have hlength : 2 ≤ (Document.indented n name ++ [' ']).length := by
    have hpos := List.length_pos_iff.2 hne
    simp only [Document.indented, List.length_append, List.length_singleton]
    omega
  simp only [isAssignment, hcut, List.getLast?_append, List.getLast?_singleton, Option.some_or,
    isOneLine_iff.2 hvalue, Bool.and_true, decide_true, Bool.true_and, decide_eq_true_eq]
  exact hlength

end Fragment

end QueryWeave
