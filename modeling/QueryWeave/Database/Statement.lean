import QueryWeave.Database.Fault
import QueryWeave.Database.Lexeme
import QueryWeave.Database.Schema

/-!
# Statements

The statements that the database understands: transactions, creating, removing and filling tables,
and reading literals or the columns of one table.
-/

namespace QueryWeave

open Text

/-- A value in a statement. -/
inductive Expression
  | value (v : Value)
  | parameter (index : Nat)
  /-- A column by its name; a quoted name that is no column is a text. -/
  | column (name : Text) (offset : Nat) (isQuoted : Bool)
  deriving DecidableEq, Repr

/-- One part of a union: the values of each row and their names, or all columns, and the table. -/
structure SelectPart where
  columns : Option (List (Expression × Option Text × Text))
  table : Option Text
  deriving DecidableEq, Repr

/-- A name as it is written in a statement. -/
structure WrittenName where
  name : Text
  spelling : Text
  offset : Nat
  deriving DecidableEq, Repr

/-- A statement. -/
inductive SqlStatement
  | startTransaction
  | commit
  | rollBack
  | createTable (temporary : Bool) (table : WrittenName) (columns : List (Text × Affinity))
  | dropTable (table : Text)
  | insert (table : Text) (columns : Option (List Text)) (rows : List (List Expression))
  /-- The first part gives the columns their names. -/
  | select (first : SelectPart) (more : List SelectPart) (order : Option WrittenName)
  deriving DecidableEq, Repr

namespace SqlStatement

/-! ## Reading parts -/

/-- Reads from the parts of a statement. -/
abbrev Reading := StateT (List Lexeme) (Except SqlFault)

/-- The fault that the next part cannot stand here. -/
def refuse {α : Type} : Reading α := do
  match ← get with
  | [] => throw .incomplete
  | l :: _ =>
    throw (if l.kind = .illegal then .unrecognized l.spelling l.offset
      else .unexpected l.spelling l.offset)

/-- Whether a part is a given word, in any case. -/
def isWord (w : Text) (l : Lexeme) : Bool :=
  l.kind == .word && l.spelling.map lower == w.map lower

/-- Whether a part is a given symbol. -/
def isSymbol (c : Char) (l : Lexeme) : Bool := l.kind == .symbol && l.spelling == [c]

/-- Takes the next part if it has a property. -/
def taken (p : Lexeme → Bool) : Reading Bool := do
  match ← get with
  | l :: ls => if p l then set ls; return true else return false
  | [] => return false

/-- Takes the next part, which must have a property. -/
def expect (p : Lexeme → Bool) : Reading Unit := do
  if ¬ (← taken p) then refuse

/-- One or more items between commas, of which at most `fuel + 1` are left. -/
def itemsFrom {α : Type} (item : Reading α) : (fuel : Nat) → Reading (List α)
  | 0 => return [← item]
  | fuel + 1 => do
    let a ← item
    if ← taken (isSymbol ',') then return a :: (← itemsFrom item fuel) else return [a]

/-- One or more items between commas. -/
def items {α : Type} (item : Reading α) : Reading (List α) := do
  itemsFrom item (← get).length

/-- Items between commas in parentheses. -/
def parenthesized {α : Type} (item : Reading α) : Reading (List α) := do
  expect (isSymbol '(')
  let all ← items item
  expect (isSymbol ')')
  return all

/-! ## Names -/

/-- Words that are no names. -/
def reserved : List Text :=
  ["add", "all", "alter", "and", "as", "between", "case", "check", "collate", "commit",
    "constraint", "create", "default", "delete", "distinct", "drop", "else", "escape", "except",
    "exists", "foreign", "from", "group", "having", "in", "index", "insert", "intersect", "into",
    "is", "isnull", "join", "limit", "not", "notnull", "null", "on", "or", "order", "primary",
    "references", "select", "set", "table", "then", "to", "transaction", "union", "unique",
    "update", "using", "values", "when", "where"].map String.toList

/-- The name that a part is. -/
def name? (l : Lexeme) : Option WrittenName :=
  match l.kind with
  | .word =>
    if reserved.contains (l.spelling.map lower) then none
    else some ⟨l.spelling, l.spelling, l.offset⟩
  | .quotedName s | .text s => some ⟨s, l.spelling, l.offset⟩
  | _ => none

/-- A name. -/
def name : Reading WrittenName := do
  match ← get with
  | l :: ls =>
    match name? l with
    | some n => set ls; return n
    | none => refuse
  | [] => refuse

/-! ## Expressions -/

/-- The position of the last separator in a number that does not stand between two of its digits. -/
def misplacedSeparator? (s : Text) : Option Nat :=
  let isDigit : Char → Bool :=
    if (Lexeme.hexadecimal? s).isSome then fun c => (hexValue? c).isSome else isDigit
  ((List.range s.length).filter fun k =>
    s[k]? = some Lexeme.separator && !(s[k - 1]?.any isDigit && s[k + 1]?.any isDigit)).getLast?

/-- A number without its separators. -/
def unseparated (s : Text) : Except SqlFault Text :=
  match misplacedSeparator? s with
  | none => .ok (s.filter (· ≠ Lexeme.separator))
  | some k =>
    -- what stands before the separator is told without the separators that it had
    let before := (s.take k).filter (· ≠ Lexeme.separator)
    .error (.misplacedSeparator (before ++ s.drop before.length))

/-- The value of a decimal number: a whole number if it has 64 bits, else a binary64 number. -/
def decimalValue (s : Text) : Value :=
  match int? Value.integerLimit s with
  | some i => .integer i
  | none => .real (RealNumeral.read s)

/-- The whole number whose 64 bits some hexadecimal digits stand for, with or without a minus
sign. -/
def hexadecimalValue? (isNegative : Bool) (digits : Text) : Option Value :=
  let digits := digits.dropWhile (· = '0')
  let n := digits.foldl (fun n c => 16 * n + (hexValue? c).getD 0) 0
  let i : Int := if n < Value.integerLimit then n else n - 2 * Value.integerLimit
  if 16 < digits.length ∨ (isNegative ∧ i = -Value.integerLimit) then none
  else some (.integer (if isNegative then -i else i))

/-- The value of a number, with or without a minus sign. -/
def numberValue (isNegative : Bool) (l : Lexeme) : Except SqlFault Value := do
  let s ← unseparated l.spelling
  let signed := if isNegative then '-' :: s else s
  match Lexeme.hexadecimal? s with
  | none => return decimalValue signed
  | some digits =>
    match hexadecimalValue? isNegative digits with
    | some v => return v
    | none => throw (.hexadecimalSize signed l.offset)

/-- A number after so many minus signs: one belongs to it, and the others change its sign. -/
def signedNumber (minusSigns : Nat) (l : Lexeme) : Except SqlFault Value := do
  let v ← numberValue (minusSigns ≠ 0) l
  return Nat.repeat Value.negated (minusSigns - 1) v

/-- The expression that a single part is. -/
def expression? (l : Lexeme) : Option Expression :=
  match l.kind with
  | .text s => some (.value (.text s))
  | .blob bytes => some (.value (.blob bytes))
  | .parameter n => some (.parameter (n - 1))
  | .quotedName s => some (.column s l.offset true)
  | .word =>
    if isWord "null" l then some (.value .null)
    else (name? l).map fun n => .column n.name n.offset false
  | _ => none

/-- The number of values that a statement can have. -/
def placeholderLimit : Nat := 32766

/-- Refuses a placeholder whose number no value has. -/
def checkPlaceholder (l : Lexeme) : Reading Unit :=
  match l.kind with
  | .parameter n =>
    if n = 0 ∨ placeholderLimit < n then throw (.placeholderRange l.offset) else pure ()
  | _ => pure ()

/-- The minus signs among the signs that are next, of which at most `fuel` are left. -/
def minusSigns : (fuel : Nat) → Reading Nat
  | 0 => return 0
  | fuel + 1 => do
    if ← taken (isSymbol '-') then return (← minusSigns fuel) + 1
    else if ← taken (isSymbol '+') then minusSigns fuel
    else return 0

/-- An expression; only numbers have signs. -/
def expression : Reading Expression := do
  let before := (← get).length
  let count ← minusSigns before
  match ← get with
  | [] => refuse
  | l :: ls =>
    if l.kind = .number then
      set ls
      return .value (← signedNumber count l)
    else
      checkPlaceholder l
      match expression? l with
      | some e =>
        if ls.length + 1 < before then refuse else set ls; return e
      | none => refuse

/-- The text of the statement from the first part of a list up to the end of the last one. -/
def spelling (parts : List Lexeme) : Text :=
  match parts, parts.getLast? with
  | first :: _, some last =>
    let all := first.spelling ++ first.rest
    all.take (all.length - last.rest.length)
  | _, _ => []

/-- An expression and its spelling. -/
def spelledExpression : Reading (Expression × Text) := do
  let before ← get
  let e ← expression
  let after ← get
  return (e, spelling (before.take (before.length - after.length)))

/-- A column of a result, with the name that it is given and its spelling. -/
def resultColumn : Reading (Expression × Option Text × Text) := do
  let (e, spelling) ← spelledExpression
  if ← taken (isWord "as") then return (e, some (← name).name, spelling)
  match ← get with
  | l :: ls =>
    match name? l with
    | some n => set ls; return (e, some n.name, spelling)
    | none => return (e, none, spelling)
  | [] => return (e, none, spelling)

/-! ## Statements -/

/-- A part of a union, after its first word. -/
def selectPart : Reading SelectPart := do
  let columns ← if ← taken (isSymbol '*') then pure none else some <$> items resultColumn
  let table ← if ← taken (isWord "from") then some <$> name else pure none
  return ⟨columns, table.map WrittenName.name⟩

/-- Further parts of a union, of which at most `fuel` are left. -/
def unionFrom : (fuel : Nat) → Reading (List SelectPart)
  | 0 => return []
  | fuel + 1 => do
    if ← taken (isWord "union") then
      expect (isWord "all")
      expect (isWord "select")
      let part ← selectPart
      return part :: (← unionFrom fuel)
    else return []

/-- A query, after its first word. -/
def selectQuery : Reading SqlStatement := do
  let first ← selectPart
  let more ← unionFrom (← get).length
  let order ← if ← taken (isWord "order") then expect (isWord "by"); some <$> name else pure none
  return .select first more order

/-- The words of a column's type, up to a comma or parenthesis, of which at most `fuel` are left. -/
def typeFrom : (fuel : Nat) → Reading (List Text)
  | 0 => return []
  | fuel + 1 => do
    match ← get with
    | l :: ls =>
      if l.kind = .word then set ls; return l.spelling :: (← typeFrom fuel) else return []
    | [] => return []

/-- A column of a new table. -/
def newColumn : Reading (Text × Affinity) := do
  let n ← name
  let type ← typeFrom (← get).length
  return (n.name, .ofType (join [' '] type))

/-- The creation of a table, after its first word. -/
def createStatement : Reading SqlStatement := do
  let temporary ← taken fun l => isWord "temp" l || isWord "temporary" l
  expect (isWord "table")
  let table ← name
  return .createTable temporary table (← parenthesized newColumn)

/-- The insertion of rows, after its first word. -/
def insertStatement : Reading SqlStatement := do
  expect (isWord "into")
  let table ← name
  let columns ← match ← get with
    | l :: _ =>
      if isSymbol '(' l then some <$> parenthesized (WrittenName.name <$> name) else pure none
    | [] => pure none
  expect (isWord "values")
  return .insert table.name columns (← items (parenthesized expression))

/-- The end of a transaction, after its first word. -/
def transactionEnd (s : SqlStatement) : Reading SqlStatement := do
  let _ ← taken (isWord "transaction")
  return s

/-- One statement. -/
def statement : Reading SqlStatement := do
  if ← taken (isWord "select") then selectQuery
  else if ← taken (isWord "insert") then insertStatement
  else if ← taken (isWord "create") then createStatement
  else if ← taken (isWord "drop") then
    expect (isWord "table")
    return .dropTable (← name).name
  else if ← taken (isWord "begin") then
    let _ ← taken fun l => isWord "deferred" l || isWord "immediate" l || isWord "exclusive" l
    transactionEnd .startTransaction
  else if ← taken fun l => isWord "commit" l || isWord "end" l then transactionEnd .commit
  else if ← taken (isWord "rollback") then transactionEnd .rollBack
  else refuse

/-- The character that ends a text of statements; what follows it is not looked at. -/
def terminator : Char := Char.ofNat 0

/-- Reads the first statement of a text; the text after it, or nothing if there is no statement. -/
def read (sql : Text) : Except SqlFault (Option (SqlStatement × Text)) :=
  let seen := sql.takeWhile (· ≠ terminator)
  match (Lexeme.parts seen).dropWhile (isSymbol ';') with
  | [] => .ok none
  | ls =>
    match statement ls with
    | .error e => .error e
    | .ok (s, []) => .ok (some (s, []))
    | .ok (s, l :: ls) =>
      if isSymbol ';' l then .ok (some (s, sql.drop (seen.length - l.rest.length)))
      else match (refuse : Reading Unit) (l :: ls) with
        | .error e => .error e
        | .ok _ => .ok (some (s, l.rest))

end SqlStatement

end QueryWeave
