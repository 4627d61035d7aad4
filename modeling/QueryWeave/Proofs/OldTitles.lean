import QueryWeave.Proofs.DataSets
import QueryWeave.Proofs.Idempotence

/-!
# What a plot statement forgets

The name of the data file, the number and the title of an entry of a plot statement are values of
one run. A later run writes its own ones, and of an old entry it wants nothing but the styling. It
reads the entry from the left and drops the title where a space follows it. A title with nothing
behind it is not dropped: the whole of it is taken for the styling, and comes back behind the new
title.

So old values make no difference just as long as every old entry with a title has styling behind it.

Main statement: `Output.weave_forgets_iff`.
-/

namespace QueryWeave

open Text

/-! ## Entries and their values -/

/-- The parts of an entry of a plot statement. -/
structure EntryParts where
  blanks : Text
  /-- The name of the data file. -/
  file : Text
  /-- The digits of the number. -/
  index : Text
  /-- What stands between the quotes of the title. -/
  title : Option Text
  /-- What follows the title. -/
  rest : Text
  deriving DecidableEq, Repr

namespace EntryParts

open Fragment Gnuplot

/-- A title with its word and its quotes. -/
def quotedTitle : Option Text → Text
  | some t => " title \"".toList ++ (t ++ ['"'])
  | none => []

theorem quotedTitle_append (t rest : Text) :
    quotedTitle (some t) ++ rest = " title \"".toList ++ (t ++ '"' :: rest) := by
  have htitle : quotedTitle (some t) = " title \"".toList ++ (t ++ ['"']) := rfl
  rw [htitle, List.append_assoc, List.append_assoc, List.singleton_append]

/-- The entry as a line. -/
def line (p : EntryParts) : Text :=
  p.blanks ++ '\'' ::
    (p.file ++ '\'' :: (" index ".toList ++ (p.index ++ (quotedTitle p.title ++ p.rest))))

/-- The parts are what their names say. -/
structure IsProper (p : EntryParts) : Prop where
  blanks : ∀ c ∈ p.blanks, isBlank c = true
  file_ne : p.file ≠ []
  file : '\'' ∉ p.file
  index_ne : p.index ≠ []
  index : ∀ c ∈ p.index, isDigit c = true
  title : ∀ t, p.title = some t → IsInside t ∧ '\n' ∉ t

instance (p : EntryParts) : Decidable p.IsProper :=
  decidable_of_iff (p.blanks.all isBlank ∧ p.file ≠ [] ∧ '\'' ∉ p.file ∧ p.index ≠ [] ∧
      p.index.all isDigit ∧ ∀ t ∈ p.title, IsInside t ∧ '\n' ∉ t)
    ⟨fun ⟨h₁, h₂, h₃, h₄, h₅, h₆⟩ => ⟨List.all_eq_true.1 h₁, h₂, h₃, h₄, List.all_eq_true.1 h₅, h₆⟩,
      fun ⟨h₁, h₂, h₃, h₄, h₅, h₆⟩ =>
        ⟨List.all_eq_true.2 h₁, h₂, h₃, h₄, List.all_eq_true.2 h₅, h₆⟩⟩

/-- The entries are the same but for the data file, the number, and the text of the title. -/
structure SameFrame (p q : EntryParts) : Prop where
  blanks : p.blanks = q.blanks
  title : p.title.isSome = q.title.isSome
  rest : p.rest = q.rest

/-- Behind the title stands a styling, which begins with a space. -/
def IsStyled (p : EntryParts) : Prop := p.rest.head? = some ' '

instance (p : EntryParts) : Decidable p.IsStyled := inferInstanceAs (Decidable (_ = _))

/-- Of two statements, the entries at a place have the same title, or styling behind
their titles. -/
def AgreeAt (ps qs : List EntryParts) (i : Nat) : Prop :=
  ∀ p q : EntryParts, ps[i]? = some p → qs[i]? = some q → p.IsStyled ∨ p.title = q.title

/-! ## Stylings -/

/-- No entry ends before a character that is neither blank nor a part of the mark. -/
private theorem entryEnd?_eq_none {s : Text} {c : Char} (hc : c ∈ s) (hblank : isBlank c = false)
    (hmark : c ∉ ", \\".toList) : entryEnd? s = none := by
  have hall : ∀ t : Text, c ∈ t → t.all isBlank = false := fun t ht =>
    List.all_eq_false.2 ⟨c, ht, by simp [hblank]⟩
  simp only [entryEnd?, hall s hc, Bool.false_eq_true, if_false]
  split
  · next r hr =>
    have hmem : c ∈ r := by
      rw [after?_eq_some_iff.1 hr] at hc
      exact (List.mem_append.1 hc).resolve_left hmark
    rw [if_neg (by simp [hall r hmem])]
  · rfl

/-- The styling of an entry is in one line. -/
theorem styling?_eq_none_iff {s : Text} : styling? s = none ↔ '\n' ∈ s := by
  induction s with
  | nil => exact iff_of_false (by simp [styling?, entryEnd?]) List.not_mem_nil
  | cons c s ih =>
    cases hend : entryEnd? (c :: s) with
    | some continued =>
      have hline : '\n' ∉ c :: s := fun hmem => by
        rw [entryEnd?_eq_none hmem (by decide) (by decide)] at hend
        cases hend
      refine iff_of_false ?_ hline
      rw [styling?, hend]
      exact Option.some_ne_none _
    | none =>
      by_cases hc : c = '\n'
      · refine iff_of_true ?_ (hc ▸ List.mem_cons_self ..)
        rw [styling?, hend]
        simp only [hc, if_true]
      · rw [styling?_cons hend hc, Option.map_eq_none_iff, ih, List.mem_cons]
        exact (or_iff_right (Ne.symm hc)).symm

/-- A quote belongs to the styling with everything in front of it. -/
theorem styling?_append_quote {s : Text} (h : '\n' ∉ s) (rest : Text) :
    styling? (s ++ '"' :: rest) =
      (styling? rest).map fun e => ⟨s ++ '"' :: e.style, e.continued⟩ := by
  have hnone : ∀ t : Text, entryEnd? (t ++ '"' :: rest) = none := fun t =>
    entryEnd?_eq_none (c := '"') (by simp) (by decide) (by decide)
  induction s with
  | nil => exact styling?_cons (hnone []) (by decide)
  | cons c s ih =>
    simp only [List.mem_cons, not_or] at h
    have hcons : styling? (c :: (s ++ '"' :: rest)) =
        (styling? (s ++ '"' :: rest)).map fun e => ⟨c :: e.style, e.continued⟩ :=
      styling?_cons (hnone (c :: s)) (Ne.symm h.1)
    rw [List.cons_append, hcons, ih h.2, Option.map_map]
    rfl

theorem spacedStyling?_cons (s : Text) :
    spacedStyling? (' ' :: s) = (styling? s).map fun e => ⟨' ' :: e.style, e.continued⟩ := by
  rw [spacedStyling?]
  cases styling? s <;> rfl

/-- A title in one line can be taken for the beginning of a styling. -/
theorem spacedStyling?_quotedTitle {t : Text} (ht : '\n' ∉ t) (rest : Text) :
    spacedStyling? (quotedTitle (some t) ++ rest) =
      (styling? rest).map fun e => ⟨quotedTitle (some t) ++ e.style, e.continued⟩ := by
  have hline : '\n' ∉ "title \"".toList ++ t := by simpa using ht
  have happend : ∀ s : Text, quotedTitle (some t) ++ s =
      ' ' :: (("title \"".toList ++ t) ++ '"' :: s) := by
    intro s
    rw [quotedTitle_append, List.append_assoc]
    rfl
  rw [happend, spacedStyling?_cons, styling?_append_quote hline, Option.map_map]
  simp only [Function.comp_def, happend]

/-! ## Entries that are read -/

variable {p q : EntryParts} {e e' : PlotEntry} {t : Text}

theorem afterIndex?_line (hp : p.IsProper) :
    afterIndex? p.line = some ((quotedTitle p.title ++ p.rest).dropWhile isDigit) :=
  afterIndex?_append hp.blanks hp.file_ne hp.file hp.index_ne hp.index _

/-- A title is dropped if styling can follow it, and else it belongs to the styling. -/
theorem plotEntry?_of_title (hp : p.IsProper) (ht : p.title = some t) :
    plotEntry? p.line =
      (spacedStyling? p.rest).or (spacedStyling? (quotedTitle (some t) ++ p.rest)) := by
  have hindex : afterIndex? p.line = some (quotedTitle (some t) ++ p.rest) := by
    rw [afterIndex?_line hp, ht]
    rfl
  have hinside : afterString? (t ++ '"' :: p.rest) = some p.rest :=
    afterString?_eq_some_iff.2 ⟨t, (hp.title t ht).1, rfl⟩
  have htitle : after? " title \"".toList (quotedTitle (some t) ++ p.rest) =
      some (t ++ '"' :: p.rest) := by
    rw [quotedTitle_append, after?_append]
  simp only [ plotEntry?, hindex, htitle, Option.bind_some, hinside]
  cases spacedStyling? p.rest <;> rfl

/-- With styling behind it, a title is dropped. -/
theorem plotEntry?_of_isStyled (hp : p.IsProper) (ht : p.title = some t) (hs : p.IsStyled) :
    plotEntry? p.line = spacedStyling? p.rest := by
  obtain ⟨s, hs⟩ := List.head?_eq_some_iff.1 hs
  rw [plotEntry?_of_title hp ht, spacedStyling?_quotedTitle (hp.title t ht).2, hs]
  by_cases hline : '\n' ∈ s
  · -- a newline stands in the way of both readings
    rw [spacedStyling?_cons, styling?_eq_none_iff.2 hline,
      styling?_eq_none_iff.2 (List.mem_cons_of_mem _ hline)]
    rfl
  · obtain ⟨e, he⟩ := Option.ne_none_iff_exists'.1 (mt styling?_eq_none_iff.1 hline)
    rw [spacedStyling?_cons, he]
    rfl

/-- With no styling behind it, a title is the beginning of the styling. -/
theorem plotEntry?_of_not_isStyled (hp : p.IsProper) (ht : p.title = some t)
    (hs : ¬ p.IsStyled) : plotEntry? p.line =
      (styling? p.rest).map fun e => ⟨quotedTitle (some t) ++ e.style, e.continued⟩ := by
  have hnone : spacedStyling? p.rest = none := by
    unfold spacedStyling?
    split
    · next r hr =>
      rw [IsStyled, hr] at hs
      exact absurd rfl hs
    · rfl
  rw [plotEntry?_of_title hp ht, hnone, Option.none_or,
    spacedStyling?_quotedTitle (hp.title t ht).2]

theorem quotedTitle_inj {t' : Text} : quotedTitle (some t) = quotedTitle (some t') ↔ t = t' := by
  refine ⟨fun h => ?_, fun h => by rw [h]⟩
  exact List.append_cancel_right (List.append_cancel_left h)

/-- Of two entries of one frame, both are read or neither; they continue the statement both or
neither. What is kept of them as the styling is the same just if their titles are, or if these are
dropped. -/
theorem SameFrame.exists_plotEntry? (hframe : p.SameFrame q) (hp : p.IsProper) (hq : q.IsProper)
    (he : plotEntry? p.line = some e) :
    ∃ e', plotEntry? q.line = some e' ∧ e'.continued = e.continued ∧
      (e.style = e'.style ↔ p.IsStyled ∨ p.title = q.title) := by
  have hsome := hframe.title
  cases ht : p.title with
  | none =>
    have ht' : q.title = none := by simpa [ht] using hsome.symm
    -- then nothing is read but what is the same in both
    have hindex : afterIndex? q.line = afterIndex? p.line := by
      rw [afterIndex?_line hp, afterIndex?_line hq, ht, ht', hframe.rest]
    have hsame : plotEntry? q.line = plotEntry? p.line := by simp only [ plotEntry?, hindex]
    exact ⟨e, hsame.trans he, rfl, iff_of_true rfl (.inr ht'.symm)⟩
  | some t =>
    obtain ⟨t', ht'⟩ := Option.isSome_iff_exists.1 (by rw [← hsome, ht]; rfl : q.title.isSome)
    have hstyled : p.IsStyled ↔ q.IsStyled := by rw [IsStyled, IsStyled, hframe.rest]
    by_cases hs : p.IsStyled
    · rw [plotEntry?_of_isStyled hp ht hs, hframe.rest] at he
      exact ⟨e, (plotEntry?_of_isStyled hq ht' (hstyled.1 hs)).trans he, rfl,
        iff_of_true rfl (.inl hs)⟩
    · rw [plotEntry?_of_not_isStyled hp ht hs, hframe.rest] at he
      obtain ⟨k, hk, rfl⟩ := Option.map_eq_some_iff.1 he
      refine ⟨⟨quotedTitle (some t') ++ k.style, k.continued⟩, ?_, rfl, ?_⟩
      · rw [plotEntry?_of_not_isStyled hq ht' (mt hstyled.2 hs), hk, Option.map_some]
      · rw [ht', or_iff_right hs, List.append_left_inj, quotedTitle_inj, Option.some.injEq]

/-- A statement with the frames of an old one is read like it. The same styling is kept at a place
of both just if they agree there. -/
theorem exists_entriesAbove {below : List Text} {ps qs : List EntryParts} {old : List PlotEntry}
    (hframe : List.Forall₂ SameFrame ps qs) (hp : ∀ p ∈ ps, p.IsProper)
    (hq : ∀ q ∈ qs, q.IsProper) (hold : EntriesAbove below (ps.map line) old) :
    ∃ old', EntriesAbove below (qs.map line) old' ∧
      ∀ i, styleAt old i = styleAt old' i ↔ AgreeAt ps qs i := by
  induction hframe generalizing old with
  | nil => exact ⟨old, hold, fun i => by simp [AgreeAt]⟩
  | @cons p q ps qs hpq hframe ih =>
    rw [List.forall_mem_cons] at hp hq
    obtain ⟨e, es, rfl, he, hrest⟩ := hold.exists_cons
    obtain ⟨e', he', hcontinued, hstyle⟩ := hpq.exists_plotEntry? hp.1 hq.1 he
    obtain ⟨es', hes', hstyles⟩ : ∃ es', EntriesAbove below ((q :: qs).map line) (e' :: es') ∧
        ∀ i, styleAt es i = styleAt es' i ↔ AgreeAt ps qs i := by
      rcases hrest with ⟨hc, hlines, rfl⟩ | ⟨hc, hes⟩
      · have hps : ps = [] := List.map_eq_nil_iff.1 hlines
        subst hps
        cases hframe
        exact ⟨[], .last he' (hcontinued.trans hc), fun i => by simp [AgreeAt]⟩
      · obtain ⟨es', hes', hstyles⟩ := ih hp.2 hq.2 hes
        exact ⟨es', .cons he' (hcontinued.trans hc) hes', hstyles⟩
    refine ⟨e' :: es', hes', fun i => ?_⟩
    cases i with
    | zero => simpa [styleAt, AgreeAt] using hstyle
    | succ i => simpa [styleAt, AgreeAt] using hstyles i

end EntryParts

/-! ## Statements and their documents -/

namespace Gnuplot

open Fragment EntryParts

theorem entry_inj {file : Text} {d : DataSet} {style style' : Text} :
    entry file d style = entry file d style' ↔ style = style' := by
  unfold entry
  exact List.append_right_inj _

/-- Old stylings go into a statement at the places of its data sets, and nowhere else. -/
theorem statement_eq_iff (file : Text) (old old' : List PlotEntry) (sets : List DataSet) :
    statement file (paired (old.map PlotEntry.style) sets) =
        statement file (paired (old'.map PlotEntry.style) sets) ↔
      ∀ i < sets.length, styleAt old i = styleAt old' i := by
  by_cases hne : sets = []
  · subst hne
    simp [paired]
  · rw [statement_paired file _ hne, statement_paired file _ hne, List.cons.injEq,
      and_iff_right rfl]
    simp only [getElem?_map_style]
    constructor
    · intro h i hi
      have hi' := congrArg (·[i]?) h
      simpa [List.getElem?_mapIdx, hi, entry_inj] using hi'
    · intro h
      apply List.ext_getElem?
      intro i
      simp only [List.getElem?_mapIdx]
      cases hd : sets[i]? with
      | none => rfl
      | some d =>
        have hi := (List.getElem?_eq_some_iff.1 hd).1
        rw [Option.map_some, Option.map_some, h i hi]

end Gnuplot

namespace Output

open Gnuplot EntryParts

/-- A directive that plots leaves the same data file behind, whatever the old statement is. It
leaves the same document behind two statements that differ only in values, that is in the data
files, the numbers and the titles of their entries, just if no title differs that belongs to the
place of a new data set and has no styling behind it. -/
theorem weave_forgets_iff (f : DataFile) (d : Directive) (x : Plotted) (above below : List Text)
    (header : Text) (hheader : Fragment.isPlotHeader header = true) (ps qs : List EntryParts)
    (hp : ∀ p ∈ ps, p.IsProper) (hq : ∀ q ∈ qs, q.IsProper) (hframe : List.Forall₂ SameFrame ps qs)
    (old : List PlotEntry) (hold : EntriesAbove below (ps.map line) old) :
    let lines := header :: ps.map line ++ below
    let lines' := header :: qs.map line ++ below
    ∃ change change' output,
      (gnuplot f).weave d x.material lines = .ok (change, output) ∧
      (gnuplot f).weave d x.material lines' = .ok (change', output) ∧
      (change.apply ⟨above ++ lines⟩ above.length d.indent =
          change'.apply ⟨above ++ lines'⟩ above.length d.indent ↔
        ∀ i < x.dataSets.length, AgreeAt ps qs i) := by
  intro lines lines'
  refine ⟨_, _, _, x.weave_material f d lines, x.weave_material f d lines', ?_⟩
  let sets := x.references f.nextIndex
  have hsets : sets.length = x.dataSets.length := x.length_references _
  obtain ⟨old', hold', hstyles⟩ := exists_entriesAbove hframe hp hq hold
  -- the documents differ just where their statements do
  have hrewritten := rewritten_plotStatement hold hheader f.name sets above d.indent
  have hrewritten' := rewritten_plotStatement hold' hheader f.name sets above d.indent
  have hiff : Document.rewritten (plotStatement f.name sets) above lines d.indent =
      Document.rewritten (plotStatement f.name sets) above lines' d.indent ↔
        statement f.name (Fragment.paired (old.map PlotEntry.style) sets) =
          statement f.name (Fragment.paired (old'.map PlotEntry.style) sets) := by
    rw [hrewritten, hrewritten']
    refine ⟨fun h => ?_, fun h => by rw [h]⟩
    simp only [Prod.mk.injEq, Document.mk.injEq] at h
    have hwritten := List.append_cancel_left (List.append_cancel_right h.1)
    exact List.map_injective_iff.2 (fun _ _ => List.append_cancel_left) hwritten
  refine hiff.trans ((statement_eq_iff f.name _ _ sets).trans ?_)
  simp only [hsets, hstyles]

/-- Titles that differ make no difference where styling follows them, or where no new data set comes
to stand. -/
theorem weave_forgets_iff_dropped :
    let body := "SELECT MULTIPLOT, x, y FROM t".toList
    let d : Directive := ⟨.multiPlot, "MULTIPLOT(g) ".toList ++ body, body, 0, 1, 0⟩
    let x : Plotted := .curves ⟨[⟨"g=a".toList, true, [⟨['1'], ['2'], none, none⟩]⟩,
      ⟨"g=b".toList, true, [⟨['3'], ['4'], none, none⟩]⟩], false⟩
    let f : DataFile := { name := "doc-data.txt".toList }
    let ps : List EntryParts := [⟨['\t'], "a.txt".toList, ['3'], some "\\\"a\\\"".toList,
      " with lines, \\".toList⟩, ⟨[], "a.txt".toList, ['4'], none, " w p lt 2, \\".toList⟩,
      ⟨[], "a.txt".toList, ['5'], some "c".toList, []⟩]
    let qs : List EntryParts := [⟨['\t'], "b c.txt".toList, "12".toList, some [],
      " with lines, \\".toList⟩, ⟨[], "b c.txt".toList, ['0'], none, " w p lt 2, \\".toList⟩,
      ⟨[], "b c.txt".toList, ['1'], some "d".toList, []⟩]
    let lines (ps : List EntryParts) := "plot \\".toList :: ps.map line ++ ["set output".toList]
    ∃ change change' output,
      (gnuplot f).weave d x.material (lines ps) = .ok (change, output) ∧
      (gnuplot f).weave d x.material (lines qs) = .ok (change', output) ∧
      change.apply ⟨"# MULTIPLOT".toList :: lines ps⟩ 1 0 =
        change'.apply ⟨"# MULTIPLOT".toList :: lines qs⟩ 1 0 := by
  intro body d x f ps qs lines
  have hframe : List.Forall₂ SameFrame ps qs :=
    .cons ⟨rfl, rfl, rfl⟩ (.cons ⟨rfl, rfl, rfl⟩ (.cons ⟨rfl, rfl, rfl⟩ .nil))
  have hold : EntriesAbove ["set output".toList] (ps.map line)
      [⟨" with lines".toList, true⟩, ⟨" w p lt 2".toList, true⟩, ⟨" title \"c\"".toList, false⟩] :=
    .cons (by decide +kernel) rfl (.cons (by decide +kernel) rfl (.last (by decide +kernel) rfl))
  obtain ⟨change, change', output, hweave, hweave', hiff⟩ := weave_forgets_iff f d x
    ["# MULTIPLOT".toList] ["set output".toList] "plot \\".toList (by decide +kernel) ps qs
    (by decide +kernel) (by decide +kernel) hframe _ hold
  refine ⟨change, change', output, hweave, hweave', hiff.2 fun i hi => ?_⟩
  rintro p q hp hq
  match i, hi with
  | 0, _ =>
    cases hp
    exact .inl (by decide +kernel)
  | 1, _ =>
    cases hp
    cases hq
    exact .inr rfl

end Output

/-- A title with nothing behind it is written behind the new title, by a run that succeeds. So the
document that comes out depends on what the title was. -/
theorem Run.bare_title_written_again :
    let old (title : Text) : Document := ⟨["# MULTIPLOT(g) SELECT MULTIPLOT, x, y FROM t".toList,
      "plot \\".toList, "    'doc-data.txt' index 0 title \"".toList ++ title ++ ['"']]⟩
    let s := Rehearsal.session [.result ["g".toList, ['x'], ['y']]
      [[some "a".toList, some ['1'], some ['2']]] none]
    let run (title : Text) := process Rehearsal.backend (Importer.resultLines Rehearsal.backend) {}
      .gnuplot "doc".toList (old title) s
    (∀ title ∈ ["old".toList, "older".toList], (run title).1.failure.isNone = true ∧
      (run title).1.position.document.lines = [
        "# MULTIPLOT(g) SELECT MULTIPLOT, x, y FROM t".toList,
        "plot \\".toList,
        "    'doc-data.txt' index 0 title \"g=a\" title \"".toList ++ title ++ ['"']]) ∧
      (run "old".toList).1.position.document ≠ (run "older".toList).1.position.document := by
  intro old s run
  exact ⟨by decide +kernel, by decide +kernel⟩

end QueryWeave
