import QueryWeave.Proofs.CurveRuns

/-!
# Buffered results

A database hands out a result whose rows are all there already, each with one cell for every column.
The cursor on such a result can be stepped as often as one likes, and in whatever state this leaves
it, the rows that are still to come can be had in two ways: all at once, or one after the other as
stepping shows them. Both give the same table.

What a step does depends only on how many steps were made before (`BufferedResult.step_after`), and
so the answers of all steps and the state that they lead to are known
(`BufferedResult.steps_cursor`).

Main statement: `BufferedResult.materialize_after_steps`.
-/

namespace QueryWeave

open Text

/-! ## Steps -/

namespace Cursor

/-- Steps one after the other: whether each of them led to a row, and the cursor after the last
one. -/
def steps (c : Cursor) : Nat → Except Text (List Bool × Cursor)
  | 0 => .ok ([], c)
  | n + 1 => do
    let (answers, d) ← c.steps n
    let (more, e) ← d.step
    return (answers ++ [more], e)

/-- Whether a column of the current row is NULL; outside the rows every column is. -/
def isNull (c : Cursor) (column : Nat) : Bool := (c.cell column).isNone

/-- The text in a column of the current row, which is empty for NULL. -/
def textAt (c : Cursor) (column : Nat) : Text := (c.cell column).text

/-- The current row is told by which columns are NULL and by the texts of the others. -/
theorem row_eq_map_textAt (c : Cursor) :
    c.row = (List.range c.columns.length).map fun j =>
      if c.isNull j then none else some (c.textAt j) := by
  apply List.map_congr_left
  intro j _
  rw [isNull, textAt]
  cases c.cell j with
  | none => rfl
  | some s => rfl

/-- Outside the rows there is nothing but NULL. -/
theorem cell_of_currentRow?_eq_none {c : Cursor} (h : c.currentRow? = none) (column : Nat) :
    c.cell column = none := by
  rw [cell, h]

end Cursor

/-! ## Results in memory -/

/-- A result whose rows are all there, with one cell for every column. -/
structure BufferedResult extends ResultTable where
  rectangular : ∀ row ∈ rows, row.length = columns.length

namespace BufferedResult

variable (b : BufferedResult)

/-- The cursor on a result, before its first row. -/
def cursor : Cursor := { query := b.query, columns := b.columns, rows := b.rows }

/-- The cursor after `n` steps: it stays behind the last row. -/
def after : Nat → Cursor
  | 0 => b.cursor
  | n + 1 => { b.cursor with position := some (min n b.rows.length) }

@[simp] theorem next_after (n : Nat) : (b.after n).next = min n (b.rows.length + 1) := by
  cases n with
  | zero => exact (Nat.zero_min _).symm
  | succ n => exact (Nat.succ_min_succ n b.rows.length).symm

@[simp] theorem rows_after (n : Nat) : (b.after n).rows = b.rows := by
  cases n <;> rfl

@[simp] theorem columns_after (n : Nat) : (b.after n).columns = b.columns := by
  cases n <;> rfl

@[simp] theorem query_after (n : Nat) : (b.after n).query = b.query := by
  cases n <;> rfl

@[simp] theorem breaksAt_after (n : Nat) : (b.after n).breaksAt = none := by
  cases n <;> rfl

theorem isRectangular_after (n : Nat) : (b.after n).IsRectangular := by
  intro row hrow
  rw [rows_after] at hrow
  rw [columns_after]
  exact b.rectangular row hrow

/-- A step leads to a row just if fewer steps than there are rows were made before. -/
theorem step_after (n : Nat) :
    (b.after n).step = .ok (decide (n < b.rows.length), b.after (n + 1)) := by
  have hbreak : (b.after n).break? = none := by
    rw [Cursor.break?, breaksAt_after]
  -- the next row stays at most one place behind the last one, and up to there it counts the steps
  have hmore : (b.after n).next < (b.after n).rows.length ↔ n < b.rows.length := by
    rw [next_after, rows_after]
    omega
  have hposition : min (b.after n).next (b.after n).rows.length = min n b.rows.length := by
    rw [next_after, rows_after]
    omega
  rw [Cursor.step, hbreak]
  simp only [hmore, hposition]
  cases n <;> rfl

/-- Every step up to the last row is answered with yes, and all that follow with no. -/
theorem steps_cursor (n : Nat) :
    b.cursor.steps n = .ok ((List.range n).map fun i => decide (i < b.rows.length), b.after n) := by
  induction n with
  | zero => rfl
  | succ n ih =>
    rw [Cursor.steps, ih, List.range_succ, List.map_append, List.map_singleton]
    simp only [bind, Except.bind, step_after]
    rfl

/-! ## What is still to come -/

theorem drop_next_after (n : Nat) :
    (b.after n).rows.drop (b.after n).next = b.rows.drop n := by
  rw [rows_after, next_after]
  rcases Nat.le_total n (b.rows.length + 1) with h | h
  · rw [Nat.min_eq_left h]
  · rw [Nat.min_eq_right h, List.drop_eq_nil_of_le (Nat.le_succ _),
      List.drop_eq_nil_of_le (Nat.le_of_succ_le h)]

/-- All rows at once: those that no step has led to. -/
theorem buffered_after (n : Nat) :
    (b.after n).buffered = ⟨b.query, b.columns, b.rows.drop n⟩ := by
  rw [Cursor.buffered, query_after, columns_after, ResultTable.mk.injEq]
  refine ⟨rfl, rfl, ?_⟩
  rw [rows_after, next_after]
  -- behind the last row, there is nothing left to be dropped
  rcases Nat.le_total n b.rows.length with h | h
  · rw [Nat.min_eq_left (Nat.le_succ_of_le h), Nat.min_eq_left h]
  · rw [List.drop_eq_nil_of_le h, List.drop_eq_nil_of_le (by omega)]

theorem toTable_after (n : Nat) : (b.after n).toTable = .ok (b.after n).buffered :=
  Cursor.toTable_eq_buffered (b.isRectangular_after n) (b.breaksAt_after n)

/-- One row after the other: stepping shows the same rows, and then it comes to the end. -/
theorem walks_after (n : Nat) :
    ∃ d e, Cursor.Walks (b.after n) (b.rows.drop n) d ∧ d.step = .ok (false, e) := by
  -- stepping comes to an end of some kind, and reading says which rows were shown until then
  obtain ⟨rows, d, hwalk, hend⟩ := (b.after n).exists_walks
  have hread := Cursor.read_eq_remaining (b.isRectangular_after n) (b.breaksAt_after n)
  rw [hwalk.read_eq, drop_next_after, Prod.mk.injEq] at hread
  rcases hend with ⟨e, hend⟩ | ⟨message, hend⟩
  · rw [Cursor.read_of_end hend, List.append_nil] at hread
    exact ⟨d, e, hread.1 ▸ hwalk, hend⟩
  · rw [Cursor.read_of_break hend] at hread
    cases hread.2

/-! ## The current row -/

theorem currentRow?_after_iff {n i : Nat} :
    (b.after n).currentRow? = some i ↔ i + 1 = n ∧ i < b.rows.length := by
  rw [Cursor.currentRow?, rows_after, Option.filter_eq_some_iff]
  cases n with
  | zero => simp [after, cursor]
  | succ n =>
    simp only [after, Option.some.injEq, decide_eq_true_eq]
    omega

theorem cell_after {n : Nat} {row : List Cell} (h : b.rows[n]? = some row) (column : Nat) :
    (b.after (n + 1)).cell column = row[column]?.join := by
  obtain ⟨hn, -⟩ := List.getElem?_eq_some_iff.1 h
  have hcurrent : (b.after (n + 1)).currentRow? = some n := b.currentRow?_after_iff.2 ⟨rfl, hn⟩
  rw [Cursor.cell, hcurrent]
  simp only [rows_after, h, Option.getD_some, ResultTable.cellOf]

end BufferedResult

/-- However many steps were made on the cursor of a result in memory, be it past its end: they were
answered with yes once for each row and with no from then on, the rows that no step has led to are
the same whether they are taken at once or shown by further steps, and outside the rows everything
is NULL. -/
theorem BufferedResult.materialize_after_steps :
    (∀ (b : BufferedResult) (n : Nat), ∃ c : Cursor,
      b.cursor.steps n = .ok ((List.range n).map fun i => decide (i < b.rows.length), c) ∧
      c.buffered = ⟨b.query, b.columns, b.rows.drop n⟩ ∧
      c.toTable = .ok c.buffered ∧
      (∃ d e, Cursor.Walks c (b.rows.drop n) d ∧ d.step = .ok (false, e)) ∧
      (∀ i, c.currentRow? = some i ↔ i + 1 = n ∧ i < b.rows.length) ∧
      (∀ i row, c.currentRow? = some i → b.rows[i]? = some row →
        ∀ j, c.cell j = row[j]?.join) ∧
      (c.currentRow? = none → ∀ j, c.isNull j = true ∧ c.textAt j = [])) ∧
    ∀ c : Cursor, c.row = (List.range c.columns.length).map fun j =>
      if c.isNull j then none else some (c.textAt j) := by
  refine ⟨?_, Cursor.row_eq_map_textAt⟩
  intro b n
  refine ⟨b.after n, b.steps_cursor n, b.buffered_after n, b.toTable_after n, b.walks_after n,
    fun i => b.currentRow?_after_iff, ?_, ?_⟩
  · intro i row hcurrent hrow j
    obtain ⟨rfl, -⟩ := b.currentRow?_after_iff.1 hcurrent
    exact b.cell_after hrow j
  · intro hcurrent j
    rw [Cursor.isNull, Cursor.textAt, Cursor.cell_of_currentRow?_eq_none hcurrent]
    exact ⟨rfl, rfl⟩

/-- A result with NULL and an empty text, on its first row and long past its end. -/
theorem BufferedResult.materialize_after_steps_past_end :
    let sql := "SELECT 1 AS a, NULL AS b UNION ALL SELECT '', 'x'".toList
    let first : List Cell := [some "1".toList, none]
    let last : List Cell := [some [], some ['x']]
    let b : BufferedResult := ⟨⟨sql, [['a'], ['b']], [first, last]⟩, by decide⟩
    (∃ c, b.cursor.steps 1 = .ok ([true], c) ∧
      c.toTable = .ok ⟨sql, [['a'], ['b']], [last]⟩ ∧ c.currentRow? = some 0 ∧
      c.cell 0 = some "1".toList ∧ c.cell 1 = none) ∧
    ∃ c, b.cursor.steps 4 = .ok ([true, true, false, false], c) ∧
      c.toTable = .ok ⟨sql, [['a'], ['b']], []⟩ ∧ c.currentRow? = none ∧ c.isNull 0 = true := by
  intro sql first last b
  have hb := BufferedResult.materialize_after_steps
  constructor
  · obtain ⟨c, hsteps, hbuffered, htable, -, hcurrent, hcell, -⟩ := hb.1 b 1
    have hfirst : c.currentRow? = some 0 := (hcurrent 0).2 ⟨rfl, by decide⟩
    refine ⟨c, hsteps, ?_, hfirst, hcell 0 first hfirst rfl 0, hcell 0 first hfirst rfl 1⟩
    rw [htable, hbuffered]
    rfl
  · obtain ⟨c, hsteps, hbuffered, htable, -, hcurrent, -, hnull⟩ := hb.1 b 4
    have hnone : c.currentRow? = none := by
      rw [Option.eq_none_iff_forall_ne_some]
      intro i hi
      have h := (hcurrent i).1 hi
      exact absurd h.2 (by rw [Nat.succ.inj h.1]; decide)
    refine ⟨c, hsteps, ?_, hnone, (hnull hnone 0).1⟩
    rw [htable, hbuffered]
    rfl

end QueryWeave
