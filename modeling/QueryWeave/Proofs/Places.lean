import Mathlib.Logic.Function.Basic
import QueryWeave.CommandLine.Run

/-!
# Places of a directory tree

A command writes texts to files, and its databases keep their tables in files of their own. Neither
makes or removes a directory, so that a path names the same place from the beginning of a command to
its end. What stands at a place in the end is therefore known: it is what was written there last, or
what was there before, except where a database is kept.

Main statements: trees with the same directories read paths in the same way
(`Tree.SameDirectories.resolve_eq_ok`), and the text that is written last stays
(`Tree.after_append_singleton`).
-/

namespace QueryWeave

open Text

theorem Except.toOption_eq_some_iff {ε α : Type} {x : Except ε α} {a : α} :
    x.toOption = some a ↔ x = .ok a := by
  cases x <;> simp [Except.toOption]

namespace Tree

/-! ## What stays as it is -/

/-- What stands at every place stays as it is, except at places of `D`. -/
def AgreesOff (D : Place → Prop) (old new : Place → Option Node) : Prop :=
  ∀ p, ¬ D p → new p = old p

namespace AgreesOff

variable {D : Place → Prop} {x y z : Place → Option Node}

theorem refl (D : Place → Prop) (x : Place → Option Node) : AgreesOff D x x := fun _ _ => rfl

theorem trans (h : AgreesOff D x y) (h' : AgreesOff D y z) : AgreesOff D x z :=
  fun p hp => (h' p hp).trans (h p hp)

/-- A change at one place of `D`. -/
theorem of_eq {p : Place} (hp : D p) (hother : ∀ q, q ≠ p → y q = x q) : AgreesOff D x y :=
  fun q hq => hother q fun h => hq (h ▸ hp)

/-- The same node is put at the same place. -/
theorem update (h : AgreesOff D x y) (p : Place) (n : Option Node) :
    AgreesOff D (Function.update x p n) (Function.update y p n) := by
  intro q hq
  by_cases hqp : q = p
  · subst hqp
    simp
  · simp only [Function.update_of_ne hqp]
    exact h q hq

end AgreesOff

/-- A node that is put somewhere else than at the root. -/
theorem node?_put_eq_update (t : Tree) {p : Place} (n : Node) (hp : p ≠ []) :
    (t.put p n).node? = Function.update t.node? p (some n) := by
  funext q
  rw [node?_put t p q n hp]
  by_cases hqp : p = q
  · subst hqp
    simp
  · simp [hqp, Function.update_of_ne (Ne.symm hqp)]

theorem ne_nil_of_node? {t : Tree} {p : Place} (h : t.node? p ≠ some .directory) : p ≠ [] := by
  rintro rfl
  exact h rfl

/-! ## Paths -/

/-- The place that a name leads to from another one. -/
def move (place : Place) (name : Text) : Place :=
  if name = upName then place.dropLast else place ++ [name]

theorem nil_notMem_move {place : Place} {name : Text} (hplace : [] ∉ place) (hname : name ≠ []) :
    [] ∉ move place name := by
  unfold move
  split
  · exact fun h => hplace (List.dropLast_subset place h)
  · simpa using ⟨hplace, hname⟩

variable {t u : Tree} {place p : Place} {name : Text} {names : List Text} {path : Path}

theorem descend_cons_eq_ok : t.descend place (name :: names) = .ok p ↔
    t.node? place = some .directory ∧ utf8Size name ≤ Path.longestName ∧
      t.descend (move place name) names = .ok p := by
  rw [descend]
  cases t.node? place with
  | none => simp
  | some n =>
    cases n with
    | directory =>
      by_cases hlong : Path.longestName < utf8Size name
      · simp [hlong, Nat.not_le.2 hlong]
      · simp [hlong, Nat.le_of_not_lt hlong, move]
    | file | database | shared => simp

/-- The last step of a way. -/
theorem descend_append_eq_ok : t.descend place (names ++ [name]) = .ok p ↔
    ∃ q, t.descend place names = .ok q ∧ t.node? q = some .directory ∧
      utf8Size name ≤ Path.longestName ∧ p = move q name := by
  induction names generalizing place with
  | nil =>
    rw [List.nil_append, descend_cons_eq_ok]
    simp [descend, eq_comm]
  | cons first names ih =>
    simp only [List.cons_append, descend_cons_eq_ok, ih]
    constructor
    · rintro ⟨hdir, hlen, q, hq, hrest⟩
      exact ⟨q, ⟨hdir, hlen, hq⟩, hrest⟩
    · rintro ⟨q, ⟨hdir, hlen, hq⟩, hrest⟩
      exact ⟨hdir, hlen, q, hq, hrest⟩

theorem nil_notMem_of_descend (hplace : [] ∉ place) (hnames : [] ∉ names)
    (h : t.descend place names = .ok p) : [] ∉ p := by
  induction names generalizing place with
  | nil =>
    cases h
    exact hplace
  | cons name names ih =>
    obtain ⟨hname, hnames⟩ := not_or.1 (mt List.mem_cons.2 hnames)
    exact ih (nil_notMem_move hplace (Ne.symm hname)) hnames (descend_cons_eq_ok.1 h).2.2

theorem nil_notMem_components (path : Path) : [] ∉ path.components := by
  simp [Path.components, Path.stays]

theorem resolve_eq_ok : t.resolve path = .ok p ↔
    Char.ofNat 0 ∉ path ∧ path ≠ [] ∧ utf8Size path ≤ Path.longestPath ∧
      t.descend (if path.isAbsolute then [] else t.current) path.components = .ok p := by
  unfold resolve
  by_cases hnul : Char.ofNat 0 ∈ path
  · simp [hnul]
  · by_cases hempty : path = []
    · simp [hempty]
    · by_cases hlong : Path.longestPath < utf8Size path
      · simp [hnul, hempty, hlong, Nat.not_le.2 hlong]
      · simp [hnul, hempty, hlong, Nat.le_of_not_lt hlong]

/-- The names on the way to the working directory are not empty. -/
def IsNamed (t : Tree) : Prop := [] ∉ t.current

/-- No name on the way to the place that a path names is empty. -/
theorem IsNamed.resolve (hnamed : t.IsNamed) (h : t.resolve path = .ok p) : [] ∉ p := by
  refine nil_notMem_of_descend ?_ (nil_notMem_components path) (resolve_eq_ok.1 h).2.2.2
  split
  · exact List.not_mem_nil
  · exact hnamed

/-- The place where a file can be written. -/
theorem writable_eq_ok : t.writable path = .ok p ↔
    t.resolve path = .ok p ∧ t.node? p ≠ some .directory ∧ path.namesDirectory = false := by
  unfold writable
  cases t.resolve path with
  | error e => simp
  | ok q =>
    cases hnode : t.node? q with
    | none =>
      cases path.namesDirectory <;> simp +contextual [hnode]
      rintro rfl
      simp [hnode]
    | some n =>
      cases n with
      | directory =>
        simp only [hnode, reduceCtorEq, Except.ok.injEq, false_iff]
        rintro ⟨rfl, hnot, -⟩
        exact hnot hnode
      | file | database | shared =>
        cases path.namesDirectory <;> simp +contextual [hnode]
        all_goals
          rintro rfl
          simp [hnode]

/-- The text of a file. -/
theorem readText_eq_ok {s : Text} : t.readText path = .ok s ↔
    ∃ p, t.resolve path = .ok p ∧ t.node? p = some (.file (toUtf8 s)) ∧
      path.namesDirectory = false := by
  unfold readText nodeAt
  cases t.resolve path with
  | error e => simp
  | ok q =>
    simp only [Except.ok.injEq, exists_eq_left']
    cases hnode : t.node? q with
    | none => simp
    | some n =>
      cases n with
      | directory => simp
      | file bytes =>
        cases path.namesDirectory with
        | true => simp
        | false =>
          cases hbytes : ofUtf8? bytes with
          | none =>
            -- bytes that are no text are the form of none
            have hne : bytes ≠ toUtf8 s := by
              rintro rfl
              simp at hbytes
            simp [hbytes, hne]
          | some s' =>
            obtain rfl := ofUtf8?_eq_some_iff.1 hbytes
            simp [hbytes, toUtf8_inj]
      | database | shared => cases path.namesDirectory <;> simp

/-! ## Trees with the same directories -/

/-- Two trees with the same directories. Names of directories are not empty. -/
structure SameDirectories (t u : Tree) : Prop where
  current : u.current = t.current
  directory : ∀ p, [] ∉ p → (u.node? p = some .directory ↔ t.node? p = some .directory)

namespace SameDirectories

theorem refl (t : Tree) : SameDirectories t t := ⟨rfl, fun _ _ => .rfl⟩

theorem trans {v : Tree} (h : SameDirectories t u) (h' : SameDirectories u v) :
    SameDirectories t v :=
  ⟨h'.current.trans h.current, fun p hp => (h'.directory p hp).trans (h.directory p hp)⟩

/-- Something that is no directory is put where no directory is. Where no path leads, it makes no
difference what it is. -/
theorem put {n : Node} (hroot : p ≠ []) (hp : [] ∉ p → t.node? p ≠ some .directory)
    (hn : [] ∉ p → n ≠ .directory) : SameDirectories t (t.put p n) := by
  refine ⟨rfl, fun q hq => ?_⟩
  rw [node?_put_eq_update t _ hroot]
  by_cases hqp : q = p
  · subst hqp
    simp [hp hq, hn hq]
  · rw [Function.update_of_ne hqp]

theorem descend_eq_ok (h : SameDirectories t u) (hplace : [] ∉ place) (hnames : [] ∉ names) :
    u.descend place names = .ok p ↔ t.descend place names = .ok p := by
  induction names generalizing place with
  | nil => rfl
  | cons name names ih =>
    obtain ⟨hname, hnames⟩ := not_or.1 (mt List.mem_cons.2 hnames)
    rw [descend_cons_eq_ok, descend_cons_eq_ok, h.directory place hplace,
      ih (nil_notMem_move hplace (Ne.symm hname)) hnames]

/-- A path names the same place. -/
theorem resolve_eq_ok (h : SameDirectories t u) (hnamed : t.IsNamed) :
    u.resolve path = .ok p ↔ t.resolve path = .ok p := by
  -- the way begins at the root or in the working directory, which are the same in both trees
  have hplace : [] ∉ if path.isAbsolute then [] else t.current := by
    split
    · exact List.not_mem_nil
    · exact hnamed
  rw [Tree.resolve_eq_ok, Tree.resolve_eq_ok, h.current,
    h.descend_eq_ok hplace (nil_notMem_components path)]

/-- A text is read in the same way if the same stands at its place. -/
theorem readText_eq_ok (h : SameDirectories t u) (hnamed : t.IsNamed)
    (hnode : ∀ p, t.resolve path = .ok p → u.node? p = t.node? p) {s : Text} :
    u.readText path = .ok s ↔ t.readText path = .ok s := by
  rw [Tree.readText_eq_ok, Tree.readText_eq_ok]
  refine exists_congr fun p => ?_
  rw [h.resolve_eq_ok hnamed]
  refine and_congr_right fun hp => ?_
  rw [hnode p hp]

end SameDirectories

/-- A tree is changed at places of `D` alone, and no directory is made or removed. -/
structure ChangesOnly (D : Place → Prop) (t u : Tree) : Prop where
  same : SameDirectories t u
  agrees : AgreesOff D t.node? u.node?

namespace ChangesOnly

variable {D : Place → Prop}

theorem refl (D : Place → Prop) (t : Tree) : ChangesOnly D t t := ⟨.refl t, .refl D _⟩

theorem trans {v : Tree} (h : ChangesOnly D t u) (h' : ChangesOnly D u v) : ChangesOnly D t v :=
  ⟨h.same.trans h'.same, h.agrees.trans h'.agrees⟩

/-- Something that is no directory is put at a place of `D`. -/
theorem put {n : Node} (hplace : D p) (hroot : p ≠ []) (hp : [] ∉ p → t.node? p ≠ some .directory)
    (hn : [] ∉ p → n ≠ .directory) : ChangesOnly D t (t.put p n) := by
  refine ⟨.put hroot hp hn, .of_eq hplace fun q hq => ?_⟩
  rw [node?_put_eq_update t n hroot, Function.update_of_ne hq]

/-- A text is read in the same way if its path leads to no place of `D`. -/
theorem readText_eq_ok (h : ChangesOnly D t u) (hnamed : t.IsNamed)
    (hpath : ∀ p, t.resolve path = .ok p → ¬ D p) {s : Text} :
    u.readText path = .ok s ↔ t.readText path = .ok s :=
  h.same.readText_eq_ok hnamed fun p hp => h.agrees p (hpath p hp)

end ChangesOnly

/-! ## Texts that are written one after the other -/

/-- Whether a text for a path is written to a place. A dash stands for no place. -/
def writesAt (t : Tree) (path : Path) (p : Place) : Bool :=
  !Step.isDash path && (t.resolve path).toOption == some p

theorem writesAt_iff : t.writesAt path p = true ↔
    Step.isDash path = false ∧ t.resolve path = .ok p := by
  simp [writesAt, Except.toOption_eq_some_iff]

/-- The last one of some texts that is written to a place, given with the paths to which they are
written. -/
def lastText? (t : Tree) (texts : List (Path × Text)) (p : Place) : Option Text :=
  ((texts.filter fun w => t.writesAt w.1 p).getLast?).map Prod.snd

/-- What stands at a place after texts are written one after the other. -/
def after (t : Tree) (texts : List (Path × Text)) (p : Place) : Option Node :=
  match t.lastText? texts p with
  | some s => some (.file (toUtf8 s))
  | none => t.node? p

variable {texts later : List (Path × Text)} {s : Text}

theorem lastText?_append : t.lastText? (texts ++ later) p =
    (t.lastText? later p).or (t.lastText? texts p) := by
  simp only [lastText?, List.filter_append, List.getLast?_append]
  cases (later.filter fun w => t.writesAt w.1 p).getLast? <;> rfl

theorem lastText?_eq_none_iff : t.lastText? texts p = none ↔
    ∀ w ∈ texts, t.writesAt w.1 p = false := by
  simp [lastText?]

theorem lastText?_singleton : t.lastText? [(path, s)] p =
    if t.writesAt path p then some s else none := by
  by_cases h : t.writesAt path p <;> simp [lastText?, h]

/-- What is not written to leaves a place as it is. -/
theorem after_of_forall (h : ∀ w ∈ texts, t.writesAt w.1 p = false) :
    t.after texts p = t.node? p := by
  simp only [after, lastText?_eq_none_iff.2 h]

/-- The text that is written last stays. -/
theorem after_append_singleton (hdash : Step.isDash path = false) (hp : t.resolve path = .ok p) :
    t.after (texts ++ [(path, s)]) =
      Function.update (t.after texts) p (some (.file (toUtf8 s))) := by
  funext q
  simp only [after, lastText?_append, lastText?_singleton]
  by_cases hqp : q = p
  · subst hqp
    simp [writesAt_iff.2 ⟨hdash, hp⟩]
  · have hnot : t.writesAt path q = false := by
      rw [Bool.eq_false_iff, ne_eq, writesAt_iff, hp]
      rintro ⟨-, h⟩
      exact hqp (Except.ok.inj h).symm
    simp [hnot, hqp, after]

/-- A text stays if nothing else is written to its place later. -/
theorem after_eq_file_iff (earlier : List (Path × Text)) (hdash : Step.isDash path = false)
    (hp : t.resolve path = .ok p) :
    t.after (earlier ++ (path, s) :: later) p = some (.file (toUtf8 s)) ↔
      ∀ s', t.lastText? later p = some s' → s' = s := by
  -- what was written earlier does not matter, as there is a text for this place
  have hfirst : t.lastText? ((path, s) :: later) p = (t.lastText? later p).or (some s) := by
    rw [← List.singleton_append, lastText?_append, lastText?_singleton,
      if_pos (writesAt_iff.2 ⟨hdash, hp⟩)]
  rw [after, lastText?_append, hfirst]
  cases t.lastText? later p <;> simp [toUtf8_inj]

/-- What goes to the standard output is written to no file. -/
theorem after_append_dash (hdash : Step.isDash path = true) :
    t.after (texts ++ [(path, s)]) = t.after texts := by
  funext q
  simp [after, lastText?_append, lastText?_singleton, writesAt, hdash]

end Tree

end QueryWeave
