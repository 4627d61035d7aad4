import QueryWeave.Proofs.CommandRuns
import QueryWeave.Proofs.DatabaseWork

/-!
# Places of databases

Which places of a directory tree hold the databases of a command can be told from its connection
strings alone: the one that it is given, and those of the directives that were begun
(`Session.targets`). Directories stay what they are, so that it makes no difference when a string is
looked at (`Connection.place?_eq`). A connection is opened, used and given up at these places, and
nothing else in the tree is touched.

Main statement: the databases of the program keep to their places
(`Connection.backend_keepsTo`).
-/

namespace QueryWeave

open Text Node QueryWeave.Tree

/-! ## Connection strings -/

namespace Connection

/-- The place of the database that a connection string names, whether or not it can be opened. -/
def place? (text : Text) (t : Tree) : Option Place :=
  match Target.ofText text with
  | .ok (.file path) =>
    match Location.ofPath path with
    | .ok l =>
      match l.access, l.fileSystem with
      | .ok access, .ok system =>
        match l.memoryKind? access system with
        | some .own => none
        | some (.shared name) => some (sharedPlace name)
        | none => (t.descend [] (t.settled l.path)).toOption
      | _, _ => none
    | .error _ => none
  | _ => none

/-- What opening the database of a connection string gives: a connection outside of a transaction,
and nothing is changed but what stands at its place, where no directory was. -/
structure IsOpened (text : Text) (t : Tree) (c : Connection) (u : Tree) : Prop where
  place : ∀ p, c.place = some p → place? text t = some p
  root : ∀ p, c.place = some p → p ≠ []
  stands : ∀ p, c.place = some p → [] ∉ p → t.node? p ≠ some .directory
  saved : c.saved = none
  changes : t.ChangesOnly (c.place = some ·) u

variable {text : Text} {t u : Tree} {c : Connection} {p : Place} {n : Node} {readOnly : Bool}

/-- A database in memory has no place. -/
theorem IsOpened.of_memory (hplace : c.place = none) (hsaved : c.saved = none) :
    IsOpened text t c t where
  place := by simp [hplace]
  root := by simp [hplace]
  stands := by simp [hplace]
  saved := hsaved
  changes := .refl _ _

/-- Something that can store a database is put at its place. -/
theorem IsOpened.of_put (hplace : place? text t = some p) (hroot : p ≠ [])
    (hp : [] ∉ p → t.node? p ≠ some .directory) (hn : [] ∉ p → n ≠ .directory) :
    IsOpened text t { place := some p, readOnly } (t.put p n) where
  place := by
    rintro _ ⟨⟩
    exact hplace
  root := by
    rintro _ ⟨⟩
    exact hroot
  stands := by
    rintro _ ⟨⟩
    exact hp
  saved := rfl
  changes := .put rfl hroot hp hn

/-- Something that is no directory stands at its place already. -/
theorem IsOpened.of_node (hplace : place? text t = some p) (hp : t.node? p ≠ some .directory) :
    IsOpened text t { place := some p, readOnly } t where
  place := by
    rintro _ ⟨⟩
    exact hplace
  root := by
    rintro _ ⟨⟩
    exact ne_nil_of_node? hp
  stands := by
    rintro _ ⟨⟩ -
    exact hp
  saved := rfl
  changes := .refl _ _

/-- The end of opening a file, once its place is known. -/
private theorem isOpened_of_found {refused fault : ConnectFault} {access : Access}
    (hplace : place? text t = some p)
    (h : (match t.node? p with
      | some .directory => throw fault
      | some _ => return ({ place := some p, readOnly }, t)
      | none =>
        if access = .create then return ({ place := some p, readOnly }, t.put p (.file .empty))
        else throw refused : Except ConnectFault (Connection × Tree)) = .ok (c, u)) :
    IsOpened text t c u := by
  split at h
  · cases h
  · next n hdir hnode =>
    cases h
    exact .of_node hplace fun hd => hdir (Option.some.inj (hnode.symm.trans hd))
  · next hnode =>
    split at h
    · cases h
      have hp : t.node? p ≠ some .directory := by simp [hnode]
      exact .of_put hplace (ne_nil_of_node? hp) (fun _ => hp) (by simp)
    · cases h

/-- Opening a file. -/
theorem isOpened_openFile {path : Path} {l : Location} {access : Access}
    (hplace : place? text t = (t.descend [] (t.settled l.path)).toOption)
    (h : openFile path l access t = .ok (c, u)) : IsOpened text t c u := by
  unfold openFile at h
  dsimp only at h
  split at h
  · cases h
  · cases h
  · next p _ hp =>
    rw [hp] at hplace
    -- another file can be asked for before the place is looked at
    split at h
    · split at h
      · cases h
      · exact isOpened_of_found hplace h
    · exact isOpened_of_found hplace h
  · split at h
    · split at h
      · cases h
      · cases h
    · cases h

theorem isOpened_openPath {path : Path} (htext : Target.ofText text = .ok (.file path))
    (h : openPath path t = .ok (c, u)) : IsOpened text t c u := by
  unfold openPath at h
  dsimp only at h
  split at h
  · cases h
  · obtain ⟨l, hl, h⟩ := Except.bind_eq_ok h
    obtain ⟨access, haccess, h⟩ := Except.bind_eq_ok h
    obtain ⟨system, hsystem, h⟩ := Except.bind_eq_ok h
    cases hkind : l.memoryKind? access system with
    | none =>
      rw [hkind] at h
      refine isOpened_openFile ?_ h
      simp only [place?, htext, hl, haccess, hsystem, hkind]
    | some kind =>
      rw [hkind] at h
      cases kind with
      | own =>
        cases h
        exact .of_memory rfl rfl
      | shared name =>
        cases h
        have hplace : place? text t = some (sharedPlace name) := by
          simp only [place?, htext, hl, haccess, hsystem, hkind]
        unfold share
        -- no path leads to the place of a shared database
        split
        · exact .of_put hplace (by simp [sharedPlace]) (by simp [sharedPlace]) (by simp)
        · exact .of_put hplace (by simp [sharedPlace]) (by simp [sharedPlace]) (by simp)

theorem isOpened_connect (h : connect text t = (.ok c, u)) : IsOpened text t c u := by
  unfold connect at h
  split at h
  · cases h
  · cases h
    exact .of_memory rfl rfl
  · next path htext =>
    cases hpath : openPath path t with
    | error e =>
      rw [hpath] at h
      cases h
    | ok r =>
      rw [hpath] at h
      cases h
      exact isOpened_openPath htext hpath

/-- A database that cannot be opened leaves no trace. -/
theorem connect_error {e : Failure} (h : connect text t = (.error e, u)) : u = t := by
  unfold connect at h
  split at h
  · cases h
    rfl
  · cases h
  · split at h
    · cases h
      rfl
    · cases h

/-- It makes no difference when a connection string is looked at. -/
theorem place?_eq (h : t.SameDirectories u) (hnamed : t.IsNamed) (text : Text) :
    place? text u = place? text t := by
  have hsettled : ∀ path : Path, u.settled path = t.settled path := by
    intro path
    simp only [settled, h.current]
  have hnames : ∀ path : Path, [] ∉ t.settled path := by
    intro path
    have hfold : ∀ (names place : List Text), [] ∉ names → [] ∉ place →
        [] ∉ names.foldl move place := by
      intro names
      induction names with
      | nil => exact fun place _ hplace => hplace
      | cons name names ih =>
        intro place hnil hplace
        obtain ⟨hname, hnil⟩ := not_or.1 (mt List.mem_cons.2 hnil)
        exact ih _ hnil (nil_notMem_move hplace (Ne.symm hname))
    refine hfold _ _ (nil_notMem_components path) ?_
    split
    · exact List.not_mem_nil
    · exact hnamed
  have hdescend : ∀ path : Path, (u.descend [] (u.settled path)).toOption =
      (t.descend [] (t.settled path)).toOption := by
    intro path
    rw [hsettled]
    ext p
    simp only [Except.toOption_eq_some_iff]
    exact h.descend_eq_ok List.not_mem_nil (hnames path)
  simp only [place?, hdescend]

/-! ## Giving a connection up -/

theorem lookup_filter (p q : Place) (nodes : List (Place × Node)) :
    lookup q (nodes.filter fun n => n.1 ≠ p) = if q = p then none else lookup q nodes := by
  induction nodes with
  | nil => simp [lookup]
  | cons n nodes ih =>
    obtain ⟨r, m⟩ := n
    by_cases hr : r = p
    · subst hr
      rw [List.filter_cons_of_neg (by simp), ih]
      by_cases hq : q = r
      · simp [hq]
      · simp [hq, lookup, Ne.symm hq]
    · rw [List.filter_cons_of_pos (by simpa using hr)]
      simp only [lookup, ih]
      by_cases hq : r = q
      · subst hq
        simp [hr]
      · simp [hq]

/-- A shared database is removed when its last user leaves; any other one is kept. -/
theorem changesOnly_release {D : Place → Prop} (hplace : D p) (hroot : p ≠ []) :
    t.ChangesOnly D (t.release p) := by
  unfold release
  split
  · next users s hnode =>
    have hp : t.node? p ≠ some .directory := by simp [hnode]
    split
    · have hnodes : ∀ q, (Tree.mk (t.nodes.filter fun n => n.1 ≠ p) t.current).node? q =
          if q = p then none else t.node? q := by
        intro q
        simp only [node?, lookup_filter]
        by_cases hq : q = p
        · subst hq
          simp [hroot]
        · simp [hq]
      refine ⟨⟨rfl, fun q _ => ?_⟩, .of_eq hplace fun q hq => by rw [hnodes, if_neg hq]⟩
      rw [hnodes]
      split
      · next hq =>
        subst hq
        simp [hp]
      · rfl
    · exact .put hplace hroot (fun _ => hp) (by simp)
  · exact .refl _ _

/-- Giving a connection up changes nothing but its own database. -/
theorem changesOnly_close {D : Place → Prop} (h : Reach.Fits D t (c, u)) :
    u.ChangesOnly D (close c u) := by
  have hundo := h.works_undo.changes
  unfold close
  dsimp only
  split
  · next p hp =>
    exact hundo.trans (changesOnly_release (h.connection.place p hp) (h.connection.root p hp))
  · exact hundo

end Connection

/-! ## The databases of a command -/

/-- Whether one of some connection strings names the database at a place. -/
def Tree.IsDatabase (t : Tree) (targets : List Text) (p : Place) : Prop :=
  ∃ text ∈ targets, Connection.place? text t = some p

instance (t : Tree) (targets : List Text) (p : Place) : Decidable (t.IsDatabase targets p) :=
  inferInstanceAs (Decidable (∃ text ∈ targets, Connection.place? text t = some p))

namespace Connection

variable {t : Tree} {targets : List Text}

/-- What belongs to the databases that some connection strings name. -/
def footprint (t : Tree) (targets : List Text) : Footprint Connection where
  places := t.IsDatabase targets
  connections := Fits (t.IsDatabase targets) t

/-- A connection that is opened is one to the databases of its connection strings. -/
theorem IsOpened.fits {text : Text} {u v : Tree} {c : Connection} (h : IsOpened text u c v)
    (hu : t.SameDirectories u) (hnamed : t.IsNamed) (htext : text ∈ targets) :
    c.Fits (t.IsDatabase targets) t where
  place p hp := ⟨text, htext, (place?_eq hu hnamed text).symm.trans (h.place p hp)⟩
  root := h.root
  stands p hp hnil := mt (hu.directory p hnil).2 (h.stands p hp hnil)
  saved p snapshot _ hs := by cases h.saved.symm.trans hs

/-- Work on the database of a connection keeps to what belongs to the databases. -/
theorem confines_of_works {α : Type} {work : Reach → Except Failure α × Reach}
    (h : ∀ {r : Reach}, r.Fits (t.IsDatabase targets) t →
      r.Works (t.IsDatabase targets) t (work r).2) : (footprint t targets).Confines t work := by
  intro c u hc hu
  have hfits : Reach.Fits (t.IsDatabase targets) t (c, u) := ⟨hc, hu⟩
  have hworks := h hfits
  exact ⟨hworks.fits.connection, hworks.changes⟩

/-- The databases of the program keep to the places that their connection strings name, whatever
they are asked. -/
theorem backend_keepsTo (hnamed : t.IsNamed) (first : Text) (transcript : List Event) :
    backend.KeepsTo (footprint t (Session.targets first transcript)) t first transcript where
  connect text htext u hu := by
    show u.ChangesOnly _ (connect text u).2 ∧ ∀ c, (connect text u).1 = .ok c → _
    rcases hopen : connect text u with ⟨e | c, v⟩
    · obtain rfl := connect_error hopen
      exact ⟨.refl _ _, fun _ h => by cases h⟩
    · have hopened := isOpened_connect hopen
      have hfits := hopened.fits hu hnamed htext
      refine ⟨⟨hopened.changes.same, fun p hp => ?_⟩, ?_⟩
      · exact hopened.changes.agrees p fun hplace => hp (hfits.place p hplace)
      · rintro _ ⟨⟩
        exact hfits
  close c u hc hu := changesOnly_close ⟨hc, hu⟩
  execute sql _ _ := confines_of_works fun h => h.works_execute sql
  query sql values _ _ := confines_of_works fun h => h.works_query sql values
  hasTable name _ := confines_of_works fun h => h.works_hasTable name

end Connection

namespace Invocation

variable {i : Invocation} {a : Arguments} {t : Tree}

/-- The connection strings of a command. -/
def targets (i : Invocation) (a : Arguments) : List Text :=
  Session.targets (a.database.getD []) i.run.transcript

/-- The databases of a command keep to their places in the tree in which it works. -/
theorem keepsTo_footprint (hnamed : i.tree.IsNamed) (ht : i.entered a = .ok t) :
    i.KeepsTo Connection.backend (Connection.footprint t (i.targets a)) a := by
  intro t' ht'
  cases ht.symm.trans ht'
  exact Connection.backend_keepsTo ((entered_eq_ok ht).2 hnamed) _ _

/-- A command that stays where it is gets to a database in memory. -/
theorem opens_memory (hdirectory : a.workDirectory = none)
    (hmemory : Target.ofText (a.database.getD []) = .ok .memory) :
    i.Opens Connection.backend a i.tree ⟨⟨{}, i.tree, []⟩, []⟩ where
  entered := by rw [Invocation.entered, hdirectory]
  connected := by
    show Connection.connect _ _ = _
    rw [Connection.connect, hmemory]
  transcript := rfl
  output := rfl

end Invocation

/-- Connection strings that all stand for databases in memory have no place. -/
theorem Tree.not_isDatabase_of_memory {t : Tree} {targets : List Text}
    (h : ∀ text ∈ targets, Connection.place? text t = none) (p : Place) :
    ¬ t.IsDatabase targets p := by
  rintro ⟨text, hmem, hplace⟩
  cases (h text hmem).symm.trans hplace

end QueryWeave
