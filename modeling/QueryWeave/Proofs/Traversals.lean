import Mathlib.Data.List.Forall2

/-!
# Passes over a list that can fail

A pass makes something of every member of a list, and fails with the first member that fails. So it
succeeds just if every member does, and then the results stand in the order of the members. The
other facts of this module are read off this one, without going through the list again.

Main statement: `Except.mapM_eq_ok_iff`.
-/

namespace QueryWeave

section

variable {ε α β : Type} {f : α → Except ε β} {xs : List α} {ys : List β}

/-- A pass that succeeds has one result for every member. -/
theorem Except.mapM_eq_ok_iff :
    xs.mapM f = .ok ys ↔ List.Forall₂ (fun x y => f x = .ok y) xs ys := by
  induction xs generalizing ys with
  | nil =>
    rw [List.forall₂_nil_left_iff]
    constructor
    · intro h
      cases h
      rfl
    · rintro rfl
      rfl
  | cons x xs ih =>
    rw [List.mapM_cons, List.forall₂_cons_left_iff]
    cases hx : f x with
    | error e =>
      constructor
      · intro h
        cases h
      · rintro ⟨y, _, hy, -⟩
        cases hy
    | ok y =>
      cases hxs : xs.mapM f with
      | error e =>
        constructor
        · intro h
          cases h
        · rintro ⟨_, ys', -, hys, -⟩
          rw [ih.2 hys] at hxs
          cases hxs
      | ok zs =>
        constructor
        · intro h
          cases h
          exact ⟨y, zs, rfl, ih.1 hxs, rfl⟩
        · rintro ⟨_, ys', hy, hys, rfl⟩
          cases hy
          rw [ih.2 hys] at hxs
          cases hxs
          rfl

/-- A pass that can only fail in one way succeeds just as well if every member does. -/
theorem Option.mapM_eq_some_iff {g : α → Option β} :
    xs.mapM g = some ys ↔ List.Forall₂ (fun x y => g x = some y) xs ys := by
  induction xs generalizing ys with
  | nil => rw [List.forall₂_nil_left_iff, List.mapM_nil, Option.pure_def, Option.some_inj, eq_comm]
  | cons x xs ih =>
    rw [List.mapM_cons, List.forall₂_cons_left_iff]
    simp only [Option.bind_eq_bind, Option.bind_eq_some_iff, Option.pure_def, Option.some_inj, ih]
    constructor
    · rintro ⟨y, hy, zs, hzs, rfl⟩
      exact ⟨y, zs, hy, hzs, rfl⟩
    · rintro ⟨y, zs, hy, hzs, rfl⟩
      exact ⟨y, hy, zs, hzs, rfl⟩

/-- Every result was made from a member. -/
theorem Except.exists_of_mem_mapM (h : xs.mapM f = .ok ys) {y : β} (hy : y ∈ ys) :
    ∃ x ∈ xs, f x = .ok y := by
  induction Except.mapM_eq_ok_iff.1 h with
  | nil => cases hy
  | @cons x y' xs ys hx hxs ih =>
    rcases List.mem_cons.1 hy with rfl | hy
    · exact ⟨x, List.mem_cons_self .., hx⟩
    · obtain ⟨x', hx', hf⟩ := ih (Except.mapM_eq_ok_iff.2 hxs) hy
      exact ⟨x', List.mem_cons_of_mem _ hx', hf⟩

/-- A pass fails just if it fails on a member. -/
theorem Except.exists_mapM_eq_error_iff :
    (∃ e, xs.mapM f = .error e) ↔ ∃ x ∈ xs, ∃ e, f x = .error e := by
  induction xs with
  | nil => simp [pure, Except.pure]
  | cons x xs ih =>
    rw [List.mapM_cons, List.exists_mem_cons_iff, ← ih]
    cases hx : f x with
    | error e => exact ⟨fun _ => .inl ⟨e, rfl⟩, fun _ => ⟨e, rfl⟩⟩
    | ok y =>
      cases hxs : xs.mapM f with
      | error e => exact ⟨fun _ => .inr ⟨e, rfl⟩, fun _ => ⟨e, rfl⟩⟩
      | ok ys =>
        constructor
        · rintro ⟨e, he⟩
          cases he
        · rintro (⟨e, he⟩ | ⟨e, he⟩) <;> cases he

/-- Some result has a property just if some member has one that amounts to it. -/
theorem Except.exists_mem_mapM_iff (h : xs.mapM f = .ok ys) {p : β → Prop} {q : α → Prop}
    (hpq : ∀ x y, f x = .ok y → (p y ↔ q x)) : (∃ y ∈ ys, p y) ↔ ∃ x ∈ xs, q x := by
  induction Except.mapM_eq_ok_iff.1 h with
  | nil => simp
  | @cons x y xs ys hx hxs ih =>
    simp only [List.mem_cons, exists_eq_or_imp, hpq x y hx, ih (Except.mapM_eq_ok_iff.2 hxs)]

/-- There are as many results as members. -/
theorem Except.length_of_mapM (h : xs.mapM f = .ok ys) : ys.length = xs.length :=
  (Except.mapM_eq_ok_iff.1 h).length_eq.symm

end

/-- What holds of every second member can be asked apart. -/
theorem forall₂_and_right_iff {α β : Type} {r : α → β → Prop} {p : β → Prop} {xs : List α}
    {ys : List β} :
    List.Forall₂ (fun x y => r x y ∧ p y) xs ys ↔ List.Forall₂ r xs ys ∧ ∀ y ∈ ys, p y := by
  constructor
  · intro h
    induction h with
    | nil => exact ⟨.nil, List.forall_mem_nil p⟩
    | cons hxy _ ih => exact ⟨.cons hxy.1 ih.1, List.forall_mem_cons.2 ⟨hxy.2, ih.2⟩⟩
  · rintro ⟨h, hp⟩
    induction h with
    | nil => exact .nil
    | cons hxy _ ih =>
      obtain ⟨hy, hys⟩ := List.forall_mem_cons.1 hp
      exact .cons ⟨hxy, hy⟩ (ih hys)

end QueryWeave
