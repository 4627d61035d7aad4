import QueryWeave.Proofs.CommandRuns
import QueryWeave.Proofs.DataFilePaths
import QueryWeave.Proofs.DataSets

/-!
# Contents of data files

The data file of a document keeps its name while the document is run, and every plot adds to it. A
plot begins with a header, so that the file is not empty any more.

Main statements: a document whose run writes a plot statement has data in a file of the name that
the statement says (`Run.Plots.exists_data`), and what is known of the documents that a command
rewrites (`Step.Runs.isRead`).
-/

namespace QueryWeave

open Text

/-! ## Contents of data files -/

namespace DataFile

theorem size_line (f : DataFile) (s : Text) :
    utf8Size (f.line s).contents = utf8Size f.contents + utf8Size s + 1 := by
  simp only [line, utf8Size_append]
  rfl

/-- A header has three lines. -/
theorem size_header (f : DataFile) (s : Text) :
    utf8Size f.contents + 3 ≤ utf8Size (f.header s).contents := by
  simp only [header, size_line]
  omega

theorem size_finish (f : DataFile) : utf8Size f.contents ≤ utf8Size f.finish.contents := by
  simp only [finish, size_line]
  omega

theorem size_rows (f : DataFile) (rows : List (List Text)) :
    utf8Size f.contents ≤ utf8Size (rows.foldl row f).contents := by
  induction rows generalizing f with
  | nil => exact Nat.le_refl _
  | cons cells rows ih =>
    refine Nat.le_trans ?_ (ih (f.row cells))
    rw [row, size_line]
    omega

theorem size_series (f : DataFile) (series : List Series) :
    utf8Size f.contents ≤ utf8Size (series.foldl Gnuplot.addSeries f).contents := by
  induction series generalizing f with
  | nil => exact Nat.le_refl _
  | cons s series ih =>
    refine Nat.le_trans ?_ (ih (Gnuplot.addSeries f s))
    refine Nat.le_trans ?_ ((size_rows ..).trans (size_finish _))
    rw [comment, size_line]
    omega

end DataFile

/-! ## Plots -/

/-- A plot begins with a header. -/
theorem Plotted.size_write (f : DataFile) (d : Directive) (x : Plotted) :
    utf8Size f.contents + 3 ≤ utf8Size (x.write f d).contents := by
  cases x with
  | points rows =>
    show _ ≤ utf8Size (Gnuplot.addRows f d.body rows).contents
    rw [Gnuplot.addRows]
    exact (f.size_header _).trans ((DataFile.size_rows _ rows).trans (DataFile.size_finish _))
  | curves p => exact (f.size_header d.command).trans (DataFile.size_series _ p.series)

/-- What a directive has fetched goes to the data file if it is a plot. -/
theorem Output.weave_gnuplot {f : DataFile} {output : Output} {d : Directive} {m : Material}
    {lines : List Text} {splice : Splice}
    (h : (gnuplot f).weave d m lines = .ok (splice, output)) :
    output = gnuplot f ∨ ∃ x : Plotted, output = gnuplot (x.write f d) := by
  cases m with
  | nothing | box | rows =>
    cases h
    exact .inl rfl
  | points rows =>
    cases h
    exact .inr ⟨.points rows, rfl⟩
  | curves p =>
    cases h
    exact .inr ⟨.curves p, rfl⟩
  | macros ms =>
    obtain ⟨change, -, heq⟩ := Except.map_eq_ok h
    cases heq
    exact .inl rfl

/-- What a directive writes leaves the name of the data file as it is. -/
theorem Output.name_of_weave {o output : Output} {d : Directive} {m : Material}
    {lines : List Text} {splice : Splice} {name : Text}
    (h : o.weave d m lines = .ok (splice, output))
    (ho : ∀ f ∈ o.dataFile?, f.name = name) : ∀ f ∈ output.dataFile?, f.name = name := by
  cases o with
  | latex =>
    -- a document of another kind has no data file
    have hkind := Output.kind_of_weave h
    cases output with
    | latex => exact ho
    | gnuplot g => cases hkind
  | gnuplot f =>
    rcases Output.weave_gnuplot h with rfl | ⟨x, rfl⟩
    · exact ho
    · rintro _ ⟨⟩
      exact (x.name_write f d).trans (ho f rfl)

/-- What writing keeps true of the output is true of it where a run ends. -/
theorem Run.output_walk {ω κ : Type} {b : Backend ω κ} {importer : Importer ω κ}
    {P : Output → Prop}
    (hweave : ∀ o d m lines splice output,
      o.weave d m lines = .ok (splice, output) → P o → P output)
    (p : Position) (s : Session ω κ) (hp : P p.output) :
    P (walk b importer p s).1.position.output := by
  induction p, s using run_induction b importer with
  | nothing p s hlook => rwa [walk_nothing hlook]
  | passed p s q w hlook ih =>
    obtain ⟨first, more, gate, -, hq, -, -⟩ := Position.look_passed hlook
    rw [walk_passed hlook]
    exact ih (by rw [hq]; exact hp)
  | failed p s q d e t hlook hfail =>
    obtain ⟨first, more, -, -, hq, -⟩ := Position.look_due hlook
    rw [walk_failed hlook hfail, hq]
    exact hp
  | carried p s q d splice output t hlook hdone ih =>
    obtain ⟨first, more, -, -, hq, -⟩ := Position.look_due hlook
    obtain ⟨m, -, hm⟩ := carryOut_eq_ok.1 hdone
    rw [walk_carried hlook hdone]
    exact ih (hweave _ _ _ _ _ _ hm (by rw [hq]; exact hp))

theorem Run.output_process {ω κ : Type} {b : Backend ω κ} {importer : Importer ω κ}
    {P : Output → Prop}
    (hweave : ∀ o d m lines splice output,
      o.weave d m lines = .ok (splice, output) → P o → P output)
    {settings : Settings} {kind : DocumentKind} {name : Text} {d : Document} (s : Session ω κ)
    (hstart : P (start settings kind name d).output) :
    P (process b importer settings kind name d s).1.position.output := by
  cases hopen : Action.startTransaction b s with
  | error e t =>
    rw [position_process_of_refused hopen]
    exact hstart
  | ok x t =>
    rw [position_process hopen]
    exact output_walk hweave _ t hstart

namespace Run

variable {ω κ : Type} {b : Backend ω κ} {importer : Importer ω κ} {settings : Settings}
  {kind : DocumentKind} {name : Text} {d : Document} {s : Session ω κ}

/-- In the run of a document a directive writes a plot statement, whose entries name a file. -/
def Plots (b : Backend ω κ) (importer : Importer ω κ) (settings : Settings) (kind : DocumentKind)
    (name : Text) (d : Document) (s : Session ω κ) (file : Text) : Prop :=
  ∃ n t p u q v f, ∃ c : Directive, ∃ x : Plotted, Action.startTransaction b s = .ok () t ∧
    Reaches b importer n (start settings kind name d) t p u ∧ p.look = .due c q ∧
    q.output = .gnuplot f ∧ f.name = file ∧
    Action.fetch b importer c (u.note (.began c)) = .ok x.material v

/-- A run goes on from every position that it reaches. -/
theorem Reaches.walk_eq {n : Nat} {p q : Position} {t : Session ω κ}
    (h : Reaches b importer n p s q t) : walk b importer p s = walk b importer q t := by
  induction h with
  | refl => rfl
  | step first _ ih => rw [walk_advance first, ih]

/-- The data of a plot stay in the file that its statement names. -/
theorem Plots.exists_data {file : Text} (h : Plots b importer settings kind name d s file) :
    ∃ f, (process b importer settings kind name d s).1.position.output = .gnuplot f ∧
      f.name = file ∧ f.isEmpty = false := by
  obtain ⟨n, t, p, u, q, v, f, c, x, hopen, hreach, hlook, hq, rfl, hfetch⟩ := h
  obtain ⟨splice, hdone⟩ : ∃ splice,
      carryOut b importer c q.output q.rest u = .ok (splice, .gnuplot (x.write f c)) v := by
    rw [hq]
    exact ⟨_, carryOut_eq_ok.2 ⟨_, hfetch, x.weave_material f c q.rest⟩⟩
  have hwritten := x.size_write f c
  rw [position_process hopen, hreach.walk_eq, walk_carried hlook hdone]
  -- the data file that the plot has left is only added to until the run ends
  have hend : ∃ g, (walk b importer (q.passSplice splice c.indent
      (.gnuplot (x.write f c))) v).1.position.output = .gnuplot g ∧ g.name = f.name ∧
        2 ≤ utf8Size g.contents := by
    refine output_walk (P := fun o => ∃ g, o = .gnuplot g ∧ g.name = f.name ∧
      2 ≤ utf8Size g.contents) ?_ _ v ⟨_, rfl, x.name_write f c, by omega⟩
    rintro _ d m lines later output hweave ⟨g, rfl, hname, hsize⟩
    rcases Output.weave_gnuplot hweave with rfl | ⟨y, rfl⟩
    · exact ⟨g, rfl, hname, hsize⟩
    · have hwrite := y.size_write g d
      exact ⟨_, rfl, (y.name_write g d).trans hname, by omega⟩
  obtain ⟨g, hg, hname, hsize⟩ := hend
  refine ⟨g, hg, hname, List.isEmpty_eq_false_iff.2 fun hnil => ?_⟩
  rw [hnil] at hsize
  exact absurd hsize (by decide)

end Run

namespace Step

variable {κ : Type} {b : Backend Tree κ} {a : Arguments} {path : Path} {r : Rewritten}
  {desk desk' : Desk κ}

/-- The output of a document that was run. -/
theorem output_process {kind : DocumentKind} {name : Text} {d d' : Document} {o : Output}
    (h : process b a kind name d desk = .ok (d', o) desk') :
    o.kind = kind ∧ ∀ f ∈ o.dataFile?, f.name = DataFile.nameFor name := by
  rw [process_eq] at h
  dsimp only at h
  split at h
  · cases h
    apply Run.output_process (P := fun o => o.kind = kind ∧
      ∀ f ∈ o.dataFile?, f.name = DataFile.nameFor name)
    · intro _ _ _ _ _ _ hweave ho
      exact ⟨(Output.kind_of_weave hweave).trans ho.1, Output.name_of_weave hweave ho.2⟩
    · refine ⟨by cases kind <;> rfl, fun f hf => ?_⟩
      cases kind with
      | latex => cases hf
      | gnuplot =>
        cases hf
        rfl
  · cases h

/-- The data of a document are those of a gnuplot document, in the file that is named for it. -/
theorem data_ofRun {kind : DocumentKind} {name : Text} {d d' : Document} {o : Output}
    (h : process b a kind name d desk = .ok (d', o) desk') {directory : Path} {f : DataFile}
    (hf : f ∈ (Rewritten.ofRun path directory d' o).data) :
    kind = .gnuplot ∧ f.name = DataFile.nameFor name := by
  obtain ⟨hmem, -⟩ := Option.filter_eq_some_iff.1 hf
  obtain ⟨hkind, hname⟩ := output_process h
  refine ⟨?_, hname f hmem⟩
  cases o with
  | latex => cases hmem
  | gnuplot => exact hkind.symm

/-- The run of the document of a file writes a plot statement, whose entries name another file. -/
def Plots (b : Backend Tree κ) (a : Arguments) (path : Path) (desk : Desk κ) (file : Text) : Prop :=
  ∃ kind s, kindOf a path = .ok kind ∧ desk.session.world.readText path = .ok s ∧
    Run.Plots b (Importer.resultLines b) a.settings kind path (.ofText s) desk.session file

/-- A document that plots has data, in a file of the name that its statement says. -/
theorem Plots.exists_mem_data {file : Text} (hplots : Plots b a path desk file)
    (h : rewrite b a path desk = .ok r desk') : ∃ f ∈ r.data, f.name = file := by
  obtain ⟨kind, s, hkind, hs, hplots⟩ := hplots
  obtain ⟨f, hf, hname, hfull⟩ := hplots.exists_data
  simp only [rewrite, bind_eq_ok, pure_eq_ok, ofExcept_eq_ok, tree_eq_ok] at h
  obtain ⟨_, _, ⟨hkind', rfl⟩, u, _, ⟨rfl, rfl⟩, s', _, ⟨hread, rfl⟩, ⟨d, o⟩, _, hprocess, rfl,
    -⟩ := h
  cases hkind.symm.trans hkind'
  rw [hs] at hread
  cases hread
  rw [process_eq] at hprocess
  dsimp only at hprocess
  split at hprocess
  · cases hprocess
    refine ⟨f, ?_, hname⟩
    show (Output.dataFile? _).filter (fun f => !f.isEmpty) = some f
    rw [hf]
    simp [Output.dataFile?, hfull]
  · cases hprocess

end Step

/-! ## Documents that were read -/

/-- The path of the data file of a document. -/
def Arguments.dataPath (a : Arguments) (path : Path) : Path :=
  (a.dataDirectory path).below (DataFile.nameFor path)

namespace Rewritten

/-- A document was read from a file of a tree, and its data go to the file that is named for it. -/
structure IsRead (a : Arguments) (t : Tree) (r : Rewritten) : Prop where
  file : r.path.namesDirectory = false
  place : ∃ p, t.resolve r.path = .ok p
  directory : r.directory = a.dataDirectory r.path
  data : ∀ f ∈ r.data, Step.kindOf a r.path = .ok .gnuplot ∧ f.name = DataFile.nameFor r.path

variable {a : Arguments} {t : Tree} {r : Rewritten} {w : Path × Text}

theorem IsRead.of_mem_dataTexts (h : r.IsRead a t) (hw : w ∈ r.dataTexts) :
    Step.kindOf a r.path = .ok .gnuplot ∧ w.1 = a.dataPath r.path := by
  obtain ⟨f, hf, rfl⟩ := List.mem_map.1 hw
  obtain ⟨hkind, hname⟩ := h.data f (Option.mem_toList.1 hf)
  exact ⟨hkind, by rw [Arguments.dataPath, h.directory, hname]⟩

/-- What is written for a document is its text, if it has a file of its own, and its data. -/
theorem IsRead.of_mem_texts (h : r.IsRead a t) (hw : w ∈ r.texts a) :
    a.output = none ∧ w = (r.path, r.text) ∨
      Step.kindOf a r.path = .ok .gnuplot ∧ w.1 = a.dataPath r.path := by
  rcases List.mem_append.1 hw with hw | hw
  · cases hout : a.output with
    | none => exact .inl ⟨rfl, by simpa [hout] using hw⟩
    | some target => simp [hout] at hw
  · exact .inr (h.of_mem_dataTexts hw)

end Rewritten

namespace Step

variable {κ : Type} {b : Backend Tree κ} {F : Footprint κ} {t : Tree} {first : Text}
  {transcript : List Event} {old : Place → Option Node} {a : Arguments} {path : Path}
  {paths : List Path} {r : Rewritten} {rs : List Rewritten} {desk desk' : Desk κ}

theorem isRead_rewrite (hnamed : t.IsNamed) (hdesk : desk.session.Intact F t old)
    (h : rewrite b a path desk = .ok r desk') : r.IsRead a t := by
  simp only [rewrite, bind_eq_ok, pure_eq_ok, ofExcept_eq_ok, tree_eq_ok] at h
  obtain ⟨kind, _, ⟨hkind, rfl⟩, u, _, ⟨rfl, rfl⟩, s, _, ⟨hread, rfl⟩, ⟨d, o⟩, _, hprocess, rfl,
    -⟩ := h
  cases hs : desk.session.world.readText path with
  | error e =>
    rw [hs] at hread
    cases hread
  | ok s =>
    obtain ⟨p, hp, -, hfile⟩ := Tree.readText_eq_ok.1 hs
    refine ⟨hfile, ⟨p, (hdesk.same.resolve_eq_ok hnamed).1 hp⟩, rfl, fun f hf => ?_⟩
    obtain ⟨rfl, hname⟩ := data_ofRun hprocess hf
    exact ⟨hkind, hname⟩

/-- All documents that are run through were read. -/
theorem Runs.isRead (hb : b.KeepsTo F t first transcript) (hnamed : t.IsNamed)
    (hcheck : a.check = false) {texts : List (Path × Text)}
    (hdesk : desk.session.Guarded F t transcript (t.after texts))
    (h : Runs b a paths desk rs desk') (hsub : desk'.session.transcript ⊆ transcript) :
    ∀ r ∈ rs, r.IsRead a t :=
  h.forall_mem hb hnamed hcheck hdesk hsub fun hdesk _ rewritten _ =>
    isRead_rewrite hnamed hdesk rewritten

end Step

end QueryWeave
