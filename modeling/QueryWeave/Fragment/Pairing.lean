import QueryWeave.Text.Basic

/-!
# Pairing old lines with new entries

The lines of one kind that follow a directive are read as a run. A new entry takes over what was
kept of the old entry at its place; further new entries take over nothing, and surplus old entries
are dropped.
-/

namespace QueryWeave.Fragment

variable {α β : Type}

/-- What `recognise` keeps of the lines at the beginning, up to the first that it refuses. -/
def run (recognise : Text → Option α) : List Text → List α
  | [] => []
  | line :: rest =>
    match recognise line with
    | some a => a :: run recognise rest
    | none => []

/-- New entries, each with what was kept of the old entry at its place, if there was one. -/
def paired : List α → List β → List (β × Option α)
  | _, [] => []
  | [], b :: bs => (b, none) :: paired [] bs
  | a :: as, b :: bs => (b, some a) :: paired as bs

/-- Pairing keeps the new entries and their order. -/
@[simp] theorem map_fst_paired (old : List α) (new : List β) :
    (paired old new).map Prod.fst = new := by
  induction new generalizing old with
  | nil => simp [paired]
  | cons b bs ih => cases old <;> simp [paired, ih]

/-- An entry is paired with the old entry at its place. -/
theorem getElem?_paired (old : List α) (new : List β) (i : Nat) :
    (paired old new)[i]? = new[i]?.map fun b => (b, old[i]?) := by
  induction new generalizing old i with
  | nil => simp [paired]
  | cons b bs ih => cases old <;> cases i <;> simp [paired, ih]

end QueryWeave.Fragment
