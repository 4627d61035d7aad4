import QueryWeave.Proofs.FailedDirectives
import QueryWeave.Proofs.GnuplotLines
import QueryWeave.Proofs.InsertedColumns
import QueryWeave.Proofs.NumberLiterals

/-!
# Assignments of macros

A macro of a gnuplot document is an assignment to a variable. The name of the variable is what is
left of the name of a column, and if nothing is left the directive fails before anything is changed.
The value is a number as it is, or a string between quotes, and what stands in the document can be
read in no other way than as the value itself, whatever quotes it has.

Main statement: `Gnuplot.weave_macros`.
-/

namespace QueryWeave

open Text

namespace Gnuplot

/-! ## Names -/

/-- A column whose name has no letter, no digit and no underscore. -/
def IsNameless (column : Text) : Prop :=
  ∀ c ∈ column, isLetter c = false ∧ isDigit c = false ∧ c ≠ '_'

theorem isNameless_iff {column : Text} : IsNameless column ↔ column.filter isNameChar = [] := by
  rw [List.filter_eq_nil_iff]
  refine forall₂_congr fun c _ => ?_
  rw [isNameChar_iff, not_or, not_or, Bool.not_eq_true, Bool.not_eq_true]

/-- No name is found just if the column has none of the characters that a name can have. -/
theorem exists_macroName_eq_error_iff {column : Text} :
    (∃ e, macroName column = .error e) ↔ IsNameless column := by
  rw [isNameless_iff, macroName]
  cases column.filter isNameChar with
  | nil => exact ⟨fun _ => rfl, fun _ => ⟨_, rfl⟩⟩
  | cons c name =>
    constructor
    · rintro ⟨e, he⟩
      cases he
    · exact nofun

/-! ## Values -/

/-- What a text means as the value of a variable: a number, with white space around it or without,
is taken as it is written, and a string between single quotes is its inside, in which a doubled
quote stands for one. -/
inductive Denotes : Text → Text → Prop
  | number {s literal : Text} (hs : IsPadded s literal) (h : IsNumberLiteral literal) : Denotes s s
  | string {s inside : Text} (h : unquote? '\'' s = some (inside, [])) : Denotes ('\'' :: s) inside

/-- Numbers have no quotes. -/
theorem quote_notMem_of_isPadded {s literal : Text} (hs : IsPadded s literal)
    (h : IsNumberLiteral literal) : '\'' ∉ s := fun hmem =>
  absurd (isPart_or_isWhite_of_isPadded hs h hmem) (by decide)

/-- The value that is written means the value that was given, and nothing else. -/
theorem denotes_macroValue_iff {value s : Text} : Denotes (macroValue value) s ↔ s = value := by
  by_cases hvalue : isNumber value = true
  · obtain ⟨literal, hpadded, hliteral⟩ := exists_literal_of_isNumber hvalue
    -- without a quote, it cannot be taken for a string
    have hquote : '\'' ∉ value := quote_notMem_of_isPadded hpadded hliteral
    rw [macroValue, if_pos hvalue]
    constructor
    · intro h
      cases h with
      | number => rfl
      | string => exact absurd (List.mem_cons_self ..) hquote
    · rintro rfl
      exact .number hpadded hliteral
  · have hread : unquote? '\'' (doubled '\'' value ++ ['\'']) = some (value, []) :=
      unquote?_doubled value nofun
    have hwritten : macroValue value = '\'' :: (doubled '\'' value ++ ['\'']) := by
      rw [macroValue, if_neg hvalue, quoted]
    rw [hwritten]
    constructor
    · intro h
      cases h with
      | number hs hliteral =>
        exact absurd (List.mem_cons_self ..) (quote_notMem_of_isPadded hs hliteral)
      | string h =>
        cases hread.symm.trans h
        rfl
    · rintro rfl
      exact .string hread

/-! ## Lines -/

/-- A line assigns the value of a macro to its variable, and is found again by the next run. -/
def Assigns (indent : Nat) (m : Macro) (line : Text) : Prop :=
  ∃ name value, line = fill indent ' ' ++ (name ++ " = ".toList ++ value) ∧ IsIdentifier name ∧
    (∀ s, Denotes value s ↔ s = m.value) ∧ Fragment.isAssignment line = true

theorem exists_macroLine_eq_error_iff {m : Macro} :
    (∃ e, macroLine m = .error e) ↔ IsNameless m.column := by
  rw [← exists_macroName_eq_error_iff, macroLine, Except.exists_map_eq_error_iff]

theorem assigns_of_macroLine {m : Macro} {line : Text} (h : macroLine m = .ok line)
    (hvalue : '\n' ∉ m.value) (indent : Nat) :
    Assigns indent m (Document.indented indent line) := by
  have hassignment := Fragment.isAssignment_macroLine h hvalue indent
  obtain ⟨name, hname, rfl⟩ := Except.map_eq_ok h
  exact ⟨name, macroValue m.value, rfl, isIdentifier_of_macroName hname,
    fun s => denotes_macroValue_iff, hassignment⟩

/-- Assignments cannot be written just if one of the columns gives no name. -/
theorem exists_defMacro_eq_error_iff {ms : List Macro} {lines : List Text} :
    (∃ e, defMacro ms lines = .error e) ↔ ∃ m ∈ ms, IsNameless m.column := by
  rw [defMacro, Except.exists_map_eq_error_iff, Except.exists_mapM_eq_error_iff]
  simp only [exists_macroLine_eq_error_iff]

theorem assigns_of_defMacro {ms : List Macro} {lines : List Text} {splice : Splice}
    (h : defMacro ms lines = .ok splice) (hvalues : ∀ m ∈ ms, '\n' ∉ m.value) (indent : Nat) :
    List.Forall₂ (Assigns indent) ms (splice.written indent) := by
  obtain ⟨new, hnew, rfl⟩ := Except.map_eq_ok h
  rw [Splice.written, List.forall₂_map_right_iff]
  have hmade := (List.forall₂_and_left ms new).2 ⟨hvalues, Except.mapM_eq_ok_iff.1 hnew⟩
  exact hmade.imp fun m line h => assigns_of_macroLine h.2 h.1 indent

end Gnuplot

/-! ## Directives -/

/-- Macros cannot be written into a gnuplot document just if the name of a column has no letter,
digit or underscore, and then the document stays as it is. Otherwise there is one line for each of
them, in their order and indented as the directive is. It assigns to a variable what means the value
and nothing else, and the next run recognises it. -/
theorem Gnuplot.weave_macros (f : DataFile) (d : Directive) {ms : List Macro}
    (hvalues : ∀ m ∈ ms, '\n' ∉ m.value) :
    let output := Output.gnuplot f
    (∀ lines, (∃ e, output.weave d (.macros ms) lines = .error e) ↔
      ∃ m ∈ ms, IsNameless m.column) ∧
    (∀ {ω κ : Type} (b : Backend ω κ) (importer : Importer ω κ) (p q : Position)
      (s t : Session ω κ), (∃ m ∈ ms, IsNameless m.column) → p.look = .due d q →
      q.output = output → Action.fetch b importer d (s.note (.began d)) = .ok (.macros ms) t →
      ∃ e, Run.walk b importer p s = (⟨q, some e⟩, t) ∧ q.document = p.document) ∧
    ((∀ m ∈ ms, ¬ IsNameless m.column) → ∀ buffer : Document, ∃ splice written,
      output.weave d (.macros ms) (buffer.lines.drop d.insertLine) = .ok (splice, output) ∧
      splice.apply buffer d.insertLine d.indent =
        (⟨buffer.lines.take d.insertLine ++ written ++
          buffer.lines.drop (d.insertLine + splice.removed)⟩, d.insertLine + ms.length) ∧
      List.Forall₂ (Assigns d.indent) ms written) := by
  intro output
  have hweave : ∀ lines, output.weave d (.macros ms) lines =
      (defMacro ms lines).map fun splice => (splice, output) := fun _ => rfl
  have herror : ∀ lines, (∃ e, output.weave d (.macros ms) lines = .error e) ↔
      ∃ m ∈ ms, IsNameless m.column := by
    intro lines
    rw [hweave, Except.exists_map_eq_error_iff, exists_defMacro_eq_error_iff]
  refine ⟨herror, ?_, ?_⟩
  · intro ω κ b importer p q s t hnameless look houtput fetched
    obtain ⟨e, he⟩ := (herror q.rest).2 hnameless
    rw [← houtput] at he
    exact ⟨_, Run.walk_unwritten look fetched he⟩
  · intro hnames buffer
    cases hchange : defMacro ms (buffer.lines.drop d.insertLine) with
    | error e =>
      obtain ⟨m, hm, hnameless⟩ := exists_defMacro_eq_error_iff.1 ⟨e, hchange⟩
      exact absurd hnameless (hnames m hm)
    | ok splice =>
      have hassigns := assigns_of_defMacro hchange hvalues d.indent
      have hlength : splice.content.length = ms.length := by
        simpa [Splice.written] using hassigns.length_eq.symm
      refine ⟨splice, splice.written d.indent, ?_, ?_, hassigns⟩
      · rw [hweave, hchange]
        rfl
      · rw [← hlength]
        rfl

/-- Values with quotes and spaces under an indented directive, and a column that gives no name. -/
theorem Gnuplot.weave_macros_quotes :
    let f : DataFile := { name := "a-data.txt".toList }
    let d : Directive := ⟨.defMacro, "DEFMACRO SELECT 1".toList, "SELECT 1".toList, 0, 1, 2⟩
    let named : List Macro := [⟨"2nd col".toList, "it's".toList⟩, ⟨"n".toList, " 5".toList⟩]
    let session := Rehearsal.session [.result ["(*)".toList] [[some "1".toList]] none]
    let start := Run.start {} .gnuplot "a.gp".toList
      ⟨["  # DEFMACRO SELECT 1".toList, "x = 1".toList]⟩
    (∃ splice written, (Output.gnuplot f).weave d (.macros named) ["x = 1".toList] =
        .ok (splice, .gnuplot f) ∧ List.Forall₂ (Assigns 2) named written) ∧
      ∃ e q t, Run.walk Rehearsal.backend (Importer.resultLines Rehearsal.backend) start session =
        (⟨q, some e⟩, t) ∧ q.document = start.document := by
  intro f d named session start
  constructor
  · have hvalues : ∀ m ∈ named, '\n' ∉ m.value := by decide
    have hnames : ∀ m ∈ named, ¬ IsNameless m.column := by
      simp only [isNameless_iff]
      decide
    obtain ⟨splice, written, hweave, -, hassigns⟩ := (Gnuplot.weave_macros f d hvalues).2.2 hnames
      ⟨["  # DEFMACRO SELECT 1".toList, "x = 1".toList]⟩
    exact ⟨splice, written, hweave, hassigns⟩
  · let nameless : List Macro := [⟨"(*)".toList, "1".toList⟩]
    have hvalues : ∀ m ∈ nameless, '\n' ∉ m.value := by decide
    have hnameless : ∃ m ∈ nameless, IsNameless m.column := by
      simp only [isNameless_iff]
      decide
    obtain ⟨t, hfetch⟩ : ∃ t, Action.fetch Rehearsal.backend
        (Importer.resultLines Rehearsal.backend) d (session.note (.began d)) =
          .ok (.macros nameless) t := by
      have hmacros : (match Action.fetch Rehearsal.backend
          (Importer.resultLines Rehearsal.backend) d (session.note (.began d)) with
        | .ok (.macros ms) _ => some ms
        | _ => none) = some nameless := by decide +kernel
      split at hmacros
      · next t h =>
        cases hmacros
        exact ⟨t, h⟩
      · cases hmacros
    obtain ⟨e, hwalk, hdocument⟩ := (Gnuplot.weave_macros f d hvalues).2.1 Rehearsal.backend
      (Importer.resultLines Rehearsal.backend) start _ session t hnameless rfl rfl hfetch
    exact ⟨e, _, t, hwalk, hdocument⟩

end QueryWeave
