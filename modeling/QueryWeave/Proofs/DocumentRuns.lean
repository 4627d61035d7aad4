import QueryWeave.Proofs.GuardedSessions

/-!
# Documents of a command

A command reads a document, runs it, and then writes what has come of it, before it looks at the
next one. This module tells the two apart: what a document is rewritten to (`Step.rewrite`), and
which texts are written for it (`Rewritten.texts`). A command over several documents is then a
sequence of such pairs (`Step.Runs`), and it ends in the first of them that fails.

Main statements: `Step.processFile_eq`, `Step.mapM_eq_ok_iff`, `Step.mapM_eq_error`.
-/

namespace QueryWeave

open Text

/-! ## Rewritten documents -/

/-- What comes of a document. -/
structure Rewritten where
  path : Path
  text : Text
  /-- The directory of the data file. -/
  directory : Path
  /-- The data file, if anything is in it. -/
  data : Option DataFile
  deriving DecidableEq

/-- The directory of the data file of a document. -/
def Arguments.dataDirectory (a : Arguments) (path : Path) : Path :=
  match a.output with
  | some target => if Step.isDash target then path.parent else Path.parent target
  | none => path.parent

/-- How documents are run. -/
def Arguments.settings (a : Arguments) : Run.Settings where
  ranges := if a.ranges.isEmpty then none else some a.ranges

namespace Rewritten

/-- What comes of a document that a run has left. -/
def ofRun (path directory : Path) (d : Document) (o : Output) : Rewritten where
  path
  text := d.toText
  directory
  data := o.dataFile?.filter fun f => !f.isEmpty

/-- The data of a document, with the path of their file. -/
def dataTexts (r : Rewritten) : List (Path × Text) :=
  r.data.toList.map fun f => (r.directory.below f.name, f.contents)

/-- The texts that are written for a document. Its own text is not among them if all documents have
a common target. -/
def texts (a : Arguments) (r : Rewritten) : List (Path × Text) :=
  (if a.output.isSome then [] else [(r.path, r.text)]) ++ r.dataTexts

/-- The text of the common target of documents. -/
def targetTexts (a : Arguments) (rs : List Rewritten) : List (Path × Text) :=
  a.output.toList.map fun target => (target, rs.flatMap text)

theorem texts_of_inPlace {a : Arguments} (h : a.output = none) (r : Rewritten) :
    r.texts a = (r.path, r.text) :: r.dataTexts := by
  simp [texts, h]

theorem texts_of_target {a : Arguments} {target : Path} (h : a.output = some target)
    (r : Rewritten) : r.texts a = r.dataTexts := by
  simp [texts, h]

end Rewritten

namespace Step

variable {κ α β : Type}

/-- Reads and runs the document of a file, and writes nothing. -/
def rewrite (b : Backend Tree κ) (a : Arguments) (path : Path) : Step κ Rewritten := do
  let kind ← ofExcept (kindOf a path)
  let s ← ofExcept (((← tree).readText path).mapError (.access path))
  let (d, o) ← process b a kind path (.ofText s)
  return .ofRun path (a.dataDirectory path) d o

/-- Writes texts one after the other, or only checks them. -/
def emitAll (a : Arguments) (texts : List (Path × Text)) : Step κ Unit :=
  texts.forM fun w => emit a w.1 w.2

theorem bind_eq_ok {x : Step κ α} {f : α → Step κ β} {desk desk' : Desk κ} {b : β} :
    (x >>= f) desk = .ok b desk' ↔ ∃ a desk₁, x desk = .ok a desk₁ ∧ f a desk₁ = .ok b desk' := by
  show EStateM.bind x f desk = _ ↔ _
  unfold EStateM.bind
  cases x desk <;> simp [and_assoc]

theorem bind_eq_error {x : Step κ α} {f : α → Step κ β} {desk desk' : Desk κ} {e : Failure} :
    (x >>= f) desk = .error e desk' ↔
      x desk = .error e desk' ∨ ∃ a desk₁, x desk = .ok a desk₁ ∧ f a desk₁ = .error e desk' := by
  show EStateM.bind x f desk = _ ↔ _
  unfold EStateM.bind
  cases x desk <;> simp [and_assoc]

theorem pure_eq_ok {a b : α} {desk desk' : Desk κ} :
    (pure a : Step κ α) desk = .ok b desk' ↔ a = b ∧ desk = desk' := by
  show EStateM.Result.ok a desk = _ ↔ _
  simp

theorem exists_of_run' {x : Step κ α} {y : α} {desk : Desk κ} (h : EStateM.run' x desk = some y) :
    ∃ desk', x desk = .ok y desk' := by
  have hresult : EStateM.run' (fun _ => x desk) desk = some y := h
  cases hx : x desk with
  | ok z desk' =>
    rw [hx] at hresult
    cases hresult
    exact ⟨desk', rfl⟩
  | error e desk' =>
    rw [hx] at hresult
    cases hresult

theorem emitAll_cons (a : Arguments) (w : Path × Text) (texts : List (Path × Text)) :
    (emitAll a (w :: texts) : Step κ Unit) = (do
      emit a w.1 w.2
      emitAll a texts) := by
  simp [emitAll]

theorem emitData_eq (a : Arguments) (path directory : Path) (d : Document) (o : Output) :
    (emitData a directory o : Step κ Unit) =
      emitAll a (Rewritten.ofRun path directory d o).dataTexts := by
  unfold emitData Rewritten.dataTexts Rewritten.ofRun
  cases o.dataFile? with
  | none => rfl
  | some f => cases hf : f.isEmpty <;> simp [hf, emitAll, Option.filter]

/-- What is done with a document: it is rewritten, and then its texts are written. -/
theorem processFile_eq (b : Backend Tree κ) (a : Arguments) (path : Path) :
    processFile b a path = (do
      let r ← rewrite b a path
      emitAll a (r.texts a)
      return if a.output.isSome then r.text else []) := by
  unfold processFile rewrite
  simp only [bind_assoc, pure_bind]
  refine bind_congr fun kind => bind_congr fun t => bind_congr fun s => bind_congr fun ⟨d, o⟩ => ?_
  have hdata := @emitData_eq κ a path (a.dataDirectory path) d o
  cases hout : a.output with
  | none =>
    have hdir : a.dataDirectory path = path.parent := by simp [Arguments.dataDirectory, hout]
    rw [hdir] at hdata ⊢
    simp only [Rewritten.texts_of_inPlace hout, hdata, emitAll_cons, bind_assoc]
    rfl
  | some target =>
    have hdir : a.dataDirectory path =
        if isDash target then path.parent else Path.parent target := by
      simp [Arguments.dataDirectory, hout]
    rw [hdir] at hdata ⊢
    simp only [Rewritten.texts_of_target hout, hdata]
    rfl

/-! ## Several documents -/

/-- Documents are rewritten one after the other, and the texts of each one are written before the
next one is looked at. -/
inductive Runs (b : Backend Tree κ) (a : Arguments) :
    List Path → Desk κ → List Rewritten → Desk κ → Prop
  | nil {desk : Desk κ} : Runs b a [] desk [] desk
  | cons {path : Path} {paths : List Path} {r : Rewritten} {rs : List Rewritten}
      {desk₁ desk₂ desk₃ desk₄ : Desk κ} (rewritten : rewrite b a path desk₁ = .ok r desk₂)
      (emitted : emitAll a (r.texts a) desk₂ = .ok () desk₃)
      (later : Runs b a paths desk₃ rs desk₄) :
      Runs b a (path :: paths) desk₁ (r :: rs) desk₄

variable {b : Backend Tree κ} {a : Arguments} {path : Path} {paths front back : List Path}
  {rs : List Rewritten} {desk desk₁ desk₂ : Desk κ}

theorem processFile_eq_ok {s : Text} : processFile b a path desk = .ok s desk₂ ↔
    ∃ r desk₁, rewrite b a path desk = .ok r desk₁ ∧ emitAll a (r.texts a) desk₁ = .ok () desk₂ ∧
      s = if a.output.isSome then r.text else [] := by
  simp only [processFile_eq, bind_eq_ok, pure_eq_ok]
  constructor
  · rintro ⟨r, desk₁, hr, ⟨⟩, desk₃, hemit, hs, rfl⟩
    exact ⟨r, desk₁, hr, hemit, hs.symm⟩
  · rintro ⟨r, desk₁, hr, hemit, rfl⟩
    exact ⟨r, desk₁, hr, (), desk₂, hemit, rfl, rfl⟩

theorem path_of_rewrite {r : Rewritten} (h : rewrite b a path desk = .ok r desk₁) :
    r.path = path ∧ r.directory = a.dataDirectory path := by
  simp only [rewrite, bind_eq_ok, pure_eq_ok] at h
  obtain ⟨kind, -, -, t, -, -, s, -, -, ⟨d, o⟩, -, -, rfl, -⟩ := h
  exact ⟨rfl, rfl⟩

theorem Runs.paths_eq (h : Runs b a paths desk rs desk₁) : rs.map Rewritten.path = paths := by
  induction h with
  | nil => rfl
  | cons rewritten _ _ ih => rw [List.map_cons, ih, (path_of_rewrite rewritten).1]

/-- Every one of the documents was rewritten behind those before it. -/
theorem Runs.exists_rewrite {rs₁ rs₂ : List Rewritten} {r : Rewritten}
    (h : Runs b a paths desk (rs₁ ++ r :: rs₂) desk₂) : ∃ before behind,
      Runs b a (rs₁.map Rewritten.path) desk rs₁ before ∧
        rewrite b a r.path before = .ok r behind := by
  induction rs₁ generalizing paths desk with
  | nil =>
    cases h with
    | cons rewritten _ _ =>
      rw [← (path_of_rewrite rewritten).1] at rewritten
      exact ⟨_, _, .nil, rewritten⟩
  | cons first rs₁ ih =>
    cases h with
    | cons rewritten emitted later =>
      obtain ⟨before, behind, hruns, hr⟩ := ih later
      refine ⟨before, behind, ?_, hr⟩
      have hpath := (path_of_rewrite rewritten).1
      rw [List.map_cons, hpath]
      exact .cons rewritten emitted hruns

theorem mapM_eq_ok_iff {ss : List Text} : paths.mapM (processFile b a) desk = .ok ss desk₁ ↔
    ∃ rs, Runs b a paths desk rs desk₁ ∧
      ss = rs.map fun r => if a.output.isSome then r.text else [] := by
  induction paths generalizing desk desk₁ ss with
  | nil =>
    simp only [List.mapM_nil, pure_eq_ok]
    constructor
    · rintro ⟨rfl, rfl⟩
      exact ⟨[], .nil, rfl⟩
    · rintro ⟨rs, hruns, rfl⟩
      cases hruns
      exact ⟨rfl, rfl⟩
  | cons path paths ih =>
    simp only [List.mapM_cons, bind_eq_ok, pure_eq_ok, processFile_eq_ok, ih]
    constructor
    · rintro ⟨s, desk₂, ⟨r, desk₃, hr, hemit, rfl⟩, ss, desk₄, ⟨rs, hruns, rfl⟩, rfl, rfl⟩
      exact ⟨r :: rs, .cons hr hemit hruns, rfl⟩
    · rintro ⟨rs, hruns, rfl⟩
      cases hruns with
      | cons hr hemit hruns =>
        exact ⟨_, _, ⟨_, _, hr, hemit, rfl⟩, _, _, ⟨_, hruns, rfl⟩, rfl, rfl⟩

/-- Behind documents that are run through, one that cannot be rewritten ends the command. -/
theorem mapM_eq_error {e : Failure} (h : Runs b a front desk rs desk₁)
    (hfail : rewrite b a path desk₁ = .error e desk₂) :
    (front ++ path :: back).mapM (processFile b a) desk = .error e desk₂ := by
  induction h with
  | nil =>
    rw [List.nil_append, List.mapM_cons, bind_eq_error]
    left
    rw [processFile_eq, bind_eq_error]
    exact .inl hfail
  | cons hr hemit _ ih =>
    rw [List.cons_append, List.mapM_cons, bind_eq_error]
    right
    refine ⟨_, _, processFile_eq_ok.2 ⟨_, _, hr, hemit, rfl⟩, ?_⟩
    rw [bind_eq_error]
    exact .inl (ih hfail)

end Step

end QueryWeave
