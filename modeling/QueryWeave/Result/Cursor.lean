import QueryWeave.Result.Table

/-!
# Cursors

A result is read row by row through a cursor, which stands before the first row, on a row, or behind
the last one. Reading can break off before a row.

Main statements: stepping reaches exactly the rows that come after the current one
(`read_eq_remaining`), so that taking them all at once gives the same table (`toTable_eq_buffered`).
-/

namespace QueryWeave

/-- A result that is read row by row. -/
structure Cursor where
  query : Text
  columns : List Text
  rows : List (List Cell)
  /-- The index of the current row, or the number of rows behind the last one. -/
  position : Option Nat := none
  /-- The index of a row that cannot be read, and what the database says about it. -/
  breaksAt : Option (Nat × Text) := none
  deriving DecidableEq, Repr, Inhabited

namespace Cursor

/-- The index of the row that a step leads to. -/
def next (c : Cursor) : Nat :=
  match c.position with
  | none => 0
  | some i => i + 1

/-- The message with which the next step fails, if it does. -/
def break? (c : Cursor) : Option Text :=
  match c.breaksAt with
  | some (i, message) => if i = c.next then some message else none
  | none => none

/-- Goes on to the next row; whether there is one, and the cursor after it. -/
def step (c : Cursor) : Except Text (Bool × Cursor) :=
  match c.break? with
  | some message => .error message
  | none =>
    .ok (decide (c.next < c.rows.length),
      { c with position := some (min c.next c.rows.length) })

/-! ## The current row -/

/-- The index of the current row. -/
def currentRow? (c : Cursor) : Option Nat := c.position.filter (· < c.rows.length)

/-- The cell in a column of the current row; outside the rows it is NULL. -/
def cell (c : Cursor) (column : Nat) : Cell :=
  match c.currentRow? with
  | some i => ResultTable.cellOf (c.rows[i]?.getD []) column
  | none => none

/-- The index of the first column with a given name. -/
def findColumn? (c : Cursor) (name : Text) : Option Nat := c.columns.findIdx? (· == name)

/-- The current row, with one cell for every column. -/
def row (c : Cursor) : List Cell := (List.range c.columns.length).map c.cell

/-! ## All rows -/

/-- The rows that stepping reaches, and the message with which a step fails. -/
def read (c : Cursor) : List (List Cell) × Option Text :=
  match c.break? with
  | some message => ([], some message)
  | none =>
    if c.next < c.rows.length then
      let d := { c with position := some c.next }
      (d.row :: d.read.1, d.read.2)
    else ([], none)
termination_by c.rows.length - c.next
decreasing_by
  all_goals
    simp only [next] at *
    omega

/-- The rows that stepping reaches as a table, if no step fails. -/
def toTable (c : Cursor) : Except Text ResultTable :=
  match c.read with
  | (rows, none) => .ok ⟨c.query, c.columns, rows⟩
  | (_, some message) => .error message

/-- The table of the rows after the current one, taken at once. -/
def buffered (c : Cursor) : ResultTable :=
  ⟨c.query, c.columns, c.rows.drop (min c.next c.rows.length)⟩

/-! ## Laws -/

/-- Every row has one cell for every column. -/
def IsRectangular (c : Cursor) : Prop := ∀ row ∈ c.rows, row.length = c.columns.length

/-- The current row as a cursor shows it is the row itself. -/
theorem row_eq {c : Cursor} {i : Nat} (hi : i < c.rows.length) (hc : c.IsRectangular) :
    ({ c with position := some i } : Cursor).row = c.rows[i] := by
  have hl := hc c.rows[i] (List.getElem_mem hi)
  apply List.ext_getElem
  · simp [row, hl]
  · intro j h₁ h₂
    simp [row, cell, currentRow?, Option.filter, hi, ResultTable.cellOf, h₂]

/-- Stepping reaches exactly the rows after the current one, if none of them breaks off. -/
theorem read_eq_remaining {c : Cursor} (hc : c.IsRectangular) (hb : c.breaksAt = none) :
    c.read = (c.rows.drop c.next, none) := by
  fun_induction read c with
  | case1 c message h => simp [break?, hb] at h
  | case2 c h hlt d ih =>
    have hd : d.next = c.next + 1 := rfl
    rw [ih hc hb, row_eq hlt hc, hd]
    simp [d]
  | case3 c h hge =>
    rw [List.drop_eq_nil_of_le (by omega)]

/-- Taking the remaining rows at once gives the table that stepping gives. -/
theorem toTable_eq_buffered {c : Cursor} (hc : c.IsRectangular) (hb : c.breaksAt = none) :
    c.toTable = .ok c.buffered := by
  have hdrop : c.rows.drop (min c.next c.rows.length) = c.rows.drop c.next := by
    rcases Nat.le_total c.next c.rows.length with h | h
    · rw [Nat.min_eq_left h]
    · rw [Nat.min_eq_right h, List.drop_eq_nil_of_le h, List.drop_length]
  simp [toTable, buffered, read_eq_remaining hc hb, hdrop]

end Cursor

end QueryWeave
