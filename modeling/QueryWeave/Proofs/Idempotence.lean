import QueryWeave.Database.Rehearsal
import QueryWeave.Proofs.Replay

/-!
# Idempotence

A document that was woven is left as it is when it is woven again, as long as the database answers
as it did before: the second run starts from the same connection and the same files, so that equal
commands get equal answers. Only the results themselves can stand in the way, where the text of a
value looks like the markup around it.

Main statements: `Run.process_latex_idempotent`, `Run.process_gnuplot_idempotent`.
-/

namespace QueryWeave

open Text

/-- A rehearsal of a document with these answers, where there are no files. -/
def Rehearsal.session (answers : List Answer) : Session Tree Rehearsal where
  connection := .scripted { answers }
  world := { nodes := [] }

namespace Run

variable {ω κ : Type} {b : Backend ω κ} {importer : Importer ω κ}

/-! ## Runs as transactions -/

/-- In the run of a document, the position `q` is reached, where the directive `d` is due above the
lines of the position `r`, and the material `m` is fetched for it. -/
def Fetches (b : Backend ω κ) (importer : Importer ω κ) (settings : Settings) (kind : DocumentKind)
    (name : Text) (input : Document) (s : Session ω κ) (q : Position) (d : Directive)
    (r : Position) (m : Material) : Prop :=
  ∃ t, Action.startTransaction b s = .ok () t ∧
    Obtains b importer (start settings kind name input) t q d r m

/-- Everything that is fetched in the run of a document, in order. -/
def fetchedBy (b : Backend ω κ) (importer : Importer ω κ) (settings : Settings)
    (kind : DocumentKind) (name : Text) (input : Document) (s : Session ω κ) :
    List (Position × Directive × Position × Material) :=
  match Action.startTransaction b s with
  | .ok _ t => fetched b importer (start settings kind name input) t
  | .error _ _ => []

/-- What is fetched in the run of a document is found in its list. -/
theorem Fetches.mem_fetchedBy {settings : Settings} {kind : DocumentKind} {name : Text}
    {input : Document} {s : Session ω κ} {q r : Position} {d : Directive} {m : Material}
    (h : Fetches b importer settings kind name input s q d r m) :
    (q, d, r, m) ∈ fetchedBy b importer settings kind name input s := by
  obtain ⟨t, hstart, hobtains⟩ := h
  unfold fetchedBy
  rw [hstart]
  exact hobtains.mem_fetched

/-- A run that succeeds opens a transaction, goes through the document and makes the changes
last. -/
theorem process_eq_ok {settings : Settings} {kind : DocumentKind} {name : Text} {input : Document}
    {s : Session ω κ} {q : Position} {u : Session ω κ}
    (h : process b importer settings kind name input s = (⟨q, none⟩, u)) :
    ∃ t t', Action.startTransaction b s = .ok () t ∧
      walk b importer (start settings kind name input) t = (⟨q, none⟩, t') ∧
      Action.commit b t' = .ok () u := by
  have hcourse := process_course b importer settings kind name input s
  rw [h] at hcourse
  cases hcourse with
  | lasting opened walked closed => exact ⟨_, _, opened, walked, closed⟩

private theorem execute_alike (sql : Text) {s s' t : Session ω κ} (hs : s.Alike s')
    (h : Action.execute b sql s = .ok () t) :
    ∃ t', Action.execute b sql s' = .ok () t' ∧ t.Alike t' := by
  obtain ⟨r, u, u', hu, hu', halike, -, -⟩ := Action.confined_execute b sql s s' hs
  rw [h] at hu
  cases r with
  | ok x =>
    cases hu
    exact ⟨u', hu', halike⟩
  | error e => cases hu

/-- A run over what a successful run has made of its document succeeds, and leaves the document and
the output as they are. -/
private theorem process_again (hi : importer.Confined) {settings : Settings} {kind : DocumentKind}
    {name : Text} {input : Document} (hlines : ∀ line ∈ input.lines, '\n' ∉ line)
    (ho : (Output.start kind name settings.dataFile).Quotable) {s s' : Session ω κ}
    (hs : s.Alike s')
    (hok : (process b importer settings kind name input s).1.failure = none)
    (hfits : ∀ q d r m, Fetches b importer settings kind name input s q d r m →
      m.Fits r.output r.rest) :
    let first := (process b importer settings kind name input s).1.position
    let again := (process b importer settings kind name first.document s').1
    again.failure = none ∧ again.position = first := by
  rcases hprocess : process b importer settings kind name input s with ⟨⟨q, failure⟩, u⟩
  rw [hprocess] at hok
  obtain rfl : failure = none := hok
  obtain ⟨t, t', hstart, hwalk, hcommit⟩ := process_eq_ok hprocess
  obtain ⟨v, hstart', halike⟩ := execute_alike _ hs hstart
  have hdocument := walk_document b importer (start settings kind name input) t
  obtain ⟨v', hwalk', halike'⟩ := walk_again hi (start settings kind name input) t v halike
    (by rw [hwalk]) ho hlines fun q d r m h => hfits q d r m ⟨t, hstart, h⟩
  rw [hwalk] at hdocument hwalk' halike'
  obtain ⟨w, hcommit', -⟩ := execute_alike _ halike' hcommit
  -- the second run starts from the lines that the first one leaves
  have hsame : start settings kind name q.document =
      { start settings kind name input with
        rest := woven b importer (start settings kind name input) t } := by
    have hlines : q.document.lines = woven b importer (start settings kind name input) t :=
      congrArg Document.lines hdocument
    rw [start, hlines]
    rfl
  have hagain : process b importer settings kind name q.document s' = (⟨q, none⟩, w) := by
    unfold process
    rw [hsame]
    simp only [Action.startTransaction, hstart', hwalk', Action.commit, hcommit']
  show (process b importer settings kind name q.document s').1.failure = none ∧
    (process b importer settings kind name q.document s').1.position = q
  rw [hagain]
  exact ⟨rfl, rfl⟩

/-- What is fetched in a run is fetched for a document of its kind. -/
theorem Fetches.kind_eq {settings : Settings} {kind : DocumentKind} {name : Text}
    {input : Document} {s : Session ω κ} {q r : Position} {d : Directive} {m : Material}
    (h : Fetches b importer settings kind name input s q d r m) : r.output.kind = kind := by
  obtain ⟨t, -, n, t', u, hreach, hlook, -⟩ := h
  obtain ⟨first, more, -, -, hr, -⟩ := Position.look_due hlook
  have hstart : (start settings kind name input).output.kind = kind := by
    cases kind with
    | latex => rfl
    | gnuplot => rfl
  rw [hr]
  exact hreach.kind_eq.trans hstart

/-! ## The two kinds of documents -/

/-- A LaTeX document that was woven with success is not changed when it is woven again, with the
same settings and from an equal database: the second run succeeds and leaves every line as it is. -/
theorem process_latex_idempotent (b : Backend ω κ) (importer : Importer ω κ)
    (hi : importer.Confined) (settings : Settings) (name : Text) (input : Document)
    (hlines : ∀ line ∈ input.lines, '\n' ∉ line) (s s' : Session ω κ) (hs : s.Alike s')
    (hok : (process b importer settings .latex name input s).1.failure = none)
    (hfits : ∀ q d r m, Fetches b importer settings .latex name input s q d r m → m.FitsLatex) :
    let first := (process b importer settings .latex name input s).1.position
    let again := (process b importer settings .latex name first.document s').1
    again.failure = none ∧ again.position.document = first.document := by
  have hfits' : ∀ q d r m, Fetches b importer settings .latex name input s q d r m →
      m.Fits r.output r.rest := by
    intro q d r m h
    cases hr : r.output with
    | latex => exact hfits q d r m h
    | gnuplot f =>
      have hkind := h.kind_eq
      rw [hr] at hkind
      cases hkind
  obtain ⟨hnone, hsame⟩ := process_again hi hlines (by trivial) hs hok hfits'
  exact ⟨hnone, by rw [hsame]⟩

/-- A curve that keeps its colour, and a table. -/
theorem process_latex_idempotent_curve_table :
    let input : Document := ⟨["% PLOT SELECT x, y FROM t".toList,
      "\\addplot[red] coordinates \x7bold\x7d;".toList, "% TABULAR SELECT c FROM t".toList,
      "\\bottomrule".toList]⟩
    let s := Rehearsal.session [
      .result ["x".toList, "y".toList] [[some "1".toList, some "2".toList]] none,
      .result ["c".toList] [[some "a & b".toList], [none]] none]
    let run := process Rehearsal.backend (Importer.resultLines Rehearsal.backend) {} .latex
      "paper".toList
    let first := (run input s).1.position
    (run input s).1.failure = none ∧ (run first.document s).1.failure = none ∧
      (run first.document s).1.position.document = first.document := by
  intro input s run first
  have hok : (run input s).1.failure = none := Option.isNone_iff_eq_none.1 (by decide +kernel)
  -- the condition on everything that is fetched is checked on the list of it
  have hchecked : ∀ x ∈ fetchedBy Rehearsal.backend (Importer.resultLines Rehearsal.backend) {}
      .latex "paper".toList input s, x.2.2.2.FitsLatex := by decide +kernel
  exact ⟨hok, process_latex_idempotent Rehearsal.backend _ (Importer.confined_resultLines _) {}
    "paper".toList input (by decide) s s (.refl s) hok fun q d r m h => hchecked _ h.mem_fetchedBy⟩

/-- A gnuplot document that was woven with success, with a data file whose name can stand between
quotes, is not changed when it is woven again, with the same settings and from an equal database:
the second run succeeds, leaves every line as it is and writes the same data file. -/
theorem process_gnuplot_idempotent (b : Backend ω κ) (importer : Importer ω κ)
    (hi : importer.Confined) (settings : Settings) (name : Text) (input : Document)
    (hlines : ∀ line ∈ input.lines, '\n' ∉ line)
    (hfile : settings.dataFile.getD (DataFile.nameFor name) ≠ [] ∧
      '\'' ∉ settings.dataFile.getD (DataFile.nameFor name))
    (s s' : Session ω κ) (hs : s.Alike s')
    (hok : (process b importer settings .gnuplot name input s).1.failure = none)
    (hfits : ∀ q d r m, Fetches b importer settings .gnuplot name input s q d r m →
      m.FitsGnuplot r.rest) :
    let first := (process b importer settings .gnuplot name input s).1.position
    let again := (process b importer settings .gnuplot name first.document s').1
    again.failure = none ∧ again.position.document = first.document ∧
      again.position.output.dataFile? = first.output.dataFile? := by
  have hfits' : ∀ q d r m, Fetches b importer settings .gnuplot name input s q d r m →
      m.Fits r.output r.rest := by
    intro q d r m h
    cases hr : r.output with
    | gnuplot f => exact hfits q d r m h
    | latex =>
      have hkind := h.kind_eq
      rw [hr] at hkind
      cases hkind
  -- the data file of a run is named before anything is written into it
  have ho : (Output.start .gnuplot name settings.dataFile).Quotable := hfile
  obtain ⟨hnone, hsame⟩ := process_again hi hlines ho hs hok hfits'
  exact ⟨hnone, by rw [hsame], by rw [hsame]⟩

/-- A curve that keeps its styling, and a table. -/
theorem process_gnuplot_idempotent_curve_table :
    let input : Document := ⟨["# PLOT SELECT x, y FROM t".toList, "plot \\".toList,
      "    'old.txt' index 0 with lines lw 2".toList, "# TABTABLE SELECT c FROM t".toList,
      "pause -1".toList]⟩
    let s := Rehearsal.session [
      .result ["x".toList, "y".toList] [[some "1".toList, some "2".toList]] none,
      .result ["c".toList] [[some "a".toList], [none]] none]
    let run := process Rehearsal.backend (Importer.resultLines Rehearsal.backend) {} .gnuplot
      "paper".toList
    let first := (run input s).1.position
    (run input s).1.failure = none ∧ (run first.document s).1.failure = none ∧
      (run first.document s).1.position.document = first.document ∧
      (run first.document s).1.position.output.dataFile? = first.output.dataFile? := by
  intro input s run first
  have hok : (run input s).1.failure = none := Option.isNone_iff_eq_none.1 (by decide +kernel)
  have hchecked : ∀ x ∈ fetchedBy Rehearsal.backend (Importer.resultLines Rehearsal.backend) {}
      .gnuplot "paper".toList input s, x.2.2.2.FitsGnuplot x.2.2.1.rest := by decide +kernel
  exact ⟨hok, process_gnuplot_idempotent Rehearsal.backend _ (Importer.confined_resultLines _) {}
    "paper".toList input (by decide) (by decide) s s (.refl s) hok
      fun q d r m h => hchecked _ h.mem_fetchedBy⟩

end Run

end QueryWeave
