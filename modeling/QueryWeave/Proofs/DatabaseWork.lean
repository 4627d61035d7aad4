import QueryWeave.Proofs.Places
import QueryWeave.Proofs.Splicing

/-!
# Work on a database

Whatever a connection is asked, it changes the tables of its own database. In the directory tree
that is one place, where no directory stands; undoing a transaction puts back what stood there
before, which was none either. All other places stay as they are.

Main statements: `Reach.Fits.works_execute` and `Reach.Fits.works_query`.
-/

namespace QueryWeave

open Text QueryWeave.Tree

/-- A computation that gives a result gets through its first step. -/
theorem Except.bind_eq_ok {ε α β : Type} {x : Except ε α} {f : α → Except ε β} {y : β}
    (h : x >>= f = .ok y) : ∃ a, x = .ok a ∧ f a = .ok y := by
  cases x with
  | error e => cases h
  | ok a => exact ⟨a, rfl, h⟩

/-! ## Work on one database -/

/-- The database of a connection stands at a place of `D`. In the tree `t`, no directory stands
there and none comes back when the transaction is undone, unless no path leads there. -/
structure Connection.Fits (D : Place → Prop) (t : Tree) (c : Connection) : Prop where
  place : ∀ p, c.place = some p → D p
  root : ∀ p, c.place = some p → p ≠ []
  stands : ∀ p, c.place = some p → [] ∉ p → t.node? p ≠ some .directory
  saved : ∀ p snapshot, c.place = some p → c.saved = some snapshot → [] ∉ p →
    snapshot.file ≠ some .directory

namespace Reach

variable {D : Place → Prop} {t : Tree}

/-- The connection fits, and the directories are those of `t`. -/
structure Fits (D : Place → Prop) (t : Tree) (r : Reach) : Prop where
  connection : r.1.Fits D t
  same : t.SameDirectories r.2

/-- Nothing is changed in the tree but what stands at places of `D`. -/
structure Works (D : Place → Prop) (t : Tree) (r r' : Reach) : Prop where
  fits : r'.Fits D t
  changes : r.2.ChangesOnly D r'.2

variable {r r' r'' : Reach} {c : Connection} {p : Place}

theorem Fits.node?_ne (h : r.Fits D t) (hp : r.1.place = some p) (hnil : [] ∉ p) :
    r.2.node? p ≠ some .directory :=
  mt (h.same.directory p hnil).1 (h.connection.stands p hp hnil)

theorem Works.refl (h : r.Fits D t) : r.Works D t r := ⟨h, .refl _ _⟩

theorem Works.trans (h : r.Works D t r') (h' : r'.Works D t r'') : r.Works D t r'' :=
  ⟨h'.fits, h.changes.trans h'.changes⟩

/-- A connection to the same database, in the same transaction or in none. -/
theorem Fits.connection_of_same (h : r.Fits D t) (hplace : c.place = r.1.place)
    (hsaved : c.saved = none ∨ c.saved = r.1.saved) : c.Fits D t := by
  refine ⟨hplace ▸ h.connection.place, hplace ▸ h.connection.root, hplace ▸ h.connection.stands, ?_⟩
  intro p snapshot hp hs
  rcases hsaved with hnone | hsame
  · cases hnone.symm.trans hs
  · exact h.connection.saved p snapshot (hplace ▸ hp) (hsame ▸ hs)

/-- Tables of the connection's own are changed, or its transaction ends. -/
theorem Fits.works_same (h : r.Fits D t) (hplace : c.place = r.1.place)
    (hsaved : c.saved = none ∨ c.saved = r.1.saved) : r.Works D t (c, r.2) :=
  ⟨⟨h.connection_of_same hplace hsaved, h.same⟩, .refl _ _⟩

/-- Something else that is no directory is put at the place of the database. -/
theorem Fits.works_put (h : r.Fits D t) {n : Node} (hp : r.1.place = some p)
    (hn : [] ∉ p → n ≠ .directory) (hplace : c.place = r.1.place)
    (hsaved : c.saved = none ∨ c.saved = r.1.saved) : r.Works D t (c, r.2.put p n) := by
  have hput : r.2.ChangesOnly D (r.2.put p n) :=
    .put (h.connection.place p hp) (h.connection.root p hp) (h.node?_ne hp) hn
  exact ⟨⟨h.connection_of_same hplace hsaved, h.same.trans hput.same⟩, hput⟩

/-! ### Tables -/

theorem Fits.works_putTables (h : r.Fits D t) (hp : r.1.place = some p) (s : Schema)
    (hplace : c.place = r.1.place) (hsaved : c.saved = none ∨ c.saved = r.1.saved) :
    r.Works D t (c, r.2.putTables p s) := by
  unfold putTables
  split
  · exact h.works_put hp (by simp) hplace hsaved
  · exact h.works_put hp (by simp) hplace hsaved

theorem Fits.works_setTables (h : r.Fits D t) (s : Schema) : r.Works D t (r.setTables s) := by
  unfold setTables
  split
  · exact h.works_same rfl (.inr rfl)
  · next p hp => exact h.works_putTables hp s rfl (.inr rfl)

theorem Fits.works_change (h : r.Fits D t) {temporary : Bool} {f : Schema → Schema}
    (hr : r.change temporary f = .ok r') : r.Works D t r' := by
  unfold change at hr
  split at hr
  · cases hr
    exact h.works_same rfl (.inr rfl)
  · split at hr
    · cases hr
    · cases hs : r.tables with
      | error e =>
        rw [hs] at hr
        cases hr
      | ok s =>
        rw [hs] at hr
        cases hr
        exact h.works_setTables _

/-! ### Transactions -/

theorem Fits.works_start (h : r.Fits D t) : r.Works D t r.start := by
  refine ⟨⟨⟨h.connection.place, h.connection.root, h.connection.stands, ?_⟩, h.same⟩, .refl _ _⟩
  rintro p snapshot (hp : r.1.place = some p) hs hnil
  cases hs
  simp only [hp, Option.bind_some]
  exact h.node?_ne hp hnil

theorem Fits.works_undo (h : r.Fits D t) : r.Works D t r.undo := by
  unfold undo
  cases hs : r.1.saved with
  | none => exact .refl h
  | some snapshot =>
    dsimp only
    split
    · -- a shared database gets its tables back, but keeps the users that it has now
      next p users s hp hfile => exact h.works_putTables hp s rfl (.inl rfl)
    · -- anything else is put back as it was
      next p n _ hp hfile =>
      refine h.works_put hp (fun hnil => ?_) rfl (.inl rfl)
      have hdir := h.connection.saved p snapshot hp hs hnil
      rw [hfile] at hdir
      simpa using hdir
    · exact h.works_same rfl (.inl rfl)

/-! ### Statements -/

theorem Fits.works_create (h : r.Fits D t) {temporary : Bool} {table : WrittenName}
    {columns : List (Text × Affinity)} (hr : r.create temporary table columns = .ok r') :
    r.Works D t r' := by
  unfold create at hr
  dsimp only at hr
  split at hr
  · cases hr
  · obtain ⟨s, -, hr⟩ := Except.bind_eq_ok hr
    generalize (if temporary then r.1.temporary else s) = known at hr
    split at hr
    · cases hr
    · split at hr
      · cases hr
      · split at hr
        · cases hr
        · exact h.works_change hr

theorem Fits.works_insert (h : r.Fits D t) {values : List Text} {table : Text}
    {columns : Option (List Text)} {rows : List (List Expression)}
    (hr : r.insert values table columns rows = .ok r') : r.Works D t r' := by
  unfold insert at hr
  obtain ⟨found, -, hr⟩ := Except.bind_eq_ok hr
  split at hr
  · cases hr
  · obtain ⟨places, -, hr⟩ := Except.bind_eq_ok hr
    dsimp only at hr
    split at hr
    · cases hr
    · cases hr
    · obtain ⟨rows, -, hr⟩ := Except.bind_eq_ok hr
      split at hr
      · cases hr
      · obtain ⟨new, -, hr⟩ := Except.bind_eq_ok hr
        exact h.works_change hr

theorem Fits.works_run (h : r.Fits D t) {values : List Text} {st : SqlStatement}
    {result : List Text × List (List Value)} (hr : r.run values st = .ok (result, r')) :
    r.Works D t r' := by
  unfold run at hr
  cases st with
  | startTransaction =>
    dsimp only at hr
    split at hr
    · cases hr
    · cases hr
      exact h.works_start
  | commit =>
    dsimp only at hr
    split at hr
    · cases hr
    · cases hr
      exact h.works_same rfl (.inl rfl)
  | rollBack =>
    dsimp only at hr
    split at hr
    · cases hr
    · cases hr
      exact h.works_undo
  | createTable temporary table columns =>
    dsimp only at hr
    obtain ⟨r₁, hcreate, hr⟩ := Except.map_eq_ok hr
    cases hr
    exact h.works_create hcreate
  | dropTable table =>
    dsimp only at hr
    split at hr
    · cases hr
    · cases hr
    · obtain ⟨r₁, hchange, hr⟩ := Except.map_eq_ok hr
      cases hr
      exact h.works_change hchange
  | insert table columns rows =>
    dsimp only at hr
    obtain ⟨r₁, hinsert, hr⟩ := Except.map_eq_ok hr
    cases hr
    exact h.works_insert hinsert
  | select first more order =>
    obtain ⟨rows, -, hr⟩ := Except.map_eq_ok hr
    cases hr
    exact .refl h

theorem Fits.works_batch (sql : Text) (fuel : Nat) (h : r.Fits D t) (rest : Text) :
    r.Works D t (batch sql r fuel rest).2 := by
  induction fuel generalizing r rest with
  | zero => exact .refl h
  | succ fuel ih =>
    -- what was done before a statement that fails is not taken back
    rw [batch]
    cases SqlStatement.read rest with
    | error e => exact .refl h
    | ok found =>
      cases found with
      | none => exact .refl h
      | some found =>
        obtain ⟨st, rest'⟩ := found
        dsimp only
        cases hr : r.run [] st with
        | error e => exact .refl h
        | ok result =>
          have hrun := h.works_run hr
          exact hrun.trans (ih hrun.fits rest')

theorem Fits.works_execute (h : r.Fits D t) (sql : Text) : r.Works D t (execute sql r).2 :=
  h.works_batch sql _ sql

theorem Fits.works_query (h : r.Fits D t) (sql : Text) (values : List Text) :
    r.Works D t (query sql values r).2 := by
  unfold query
  split
  · exact .refl h
  · exact .refl h
  · split
    · exact .refl h
    · next hr =>
      split
      · exact h.works_run hr
      · exact .refl h

theorem Fits.works_hasTable (h : r.Fits D t) (name : Text) : r.Works D t (hasTable name r).2 := by
  unfold hasTable
  split <;> exact .refl h

end Reach

end QueryWeave
