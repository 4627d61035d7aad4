import QueryWeave.Text.Integer

/-!
# Faults of statements

Why a database refuses a statement. Faults that are found while the statement is read tell where in
its bytes they lie.
-/

namespace QueryWeave

open Text

/-- Why a statement is refused. -/
inductive SqlFault
  /-- A part of the statement, at some position, cannot stand where it stands. -/
  | unexpected (part : Text) (offset : Nat)
  /-- The statement ends too early. -/
  | incomplete
  /-- Characters at some position form no part of any statement. -/
  | unrecognized (part : Text) (offset : Nat)
  /-- A separator in a number does not stand between two digits. -/
  | misplacedSeparator (part : Text)
  /-- A hexadecimal number, after its sign, has more than 64 bits. -/
  | hexadecimalSize (part : Text) (offset : Nat)
  /-- There is no statement to step through. -/
  | empty
  | noTable (name : Text)
  | tableExists (part : Text) (offset : Nat)
  | reservedName (name : Text)
  | noColumn (name : Text) (offset : Nat)
  | noColumnIn (table column : Text)
  | repeatedColumn (name : Text)
  | tooManyColumns (table : Text)
  | tooManyResultColumns
  /-- A union has too many parts. -/
  | tooManyTerms
  /-- A placeholder has an index that no value can have. -/
  | placeholderRange (offset : Nat)
  /-- A union cannot be sorted by something that is none of its columns. -/
  | noOrderColumn
  /-- All columns are asked for, but no table is named. -/
  | noTables
  /-- The parts of a union have different counts of columns. -/
  | unevenUnion
  | valueCount (values columns : Nat)
  | suppliedCount (table : Text) (columns values : Nat)
  | parameterCount (given needed : Nat)
  /-- The number of a row is no whole number. -/
  | mismatch
  /-- Another row of the table has the number. -/
  | usedNumber (table : Text)
  /-- The database can only be read. -/
  | readOnly
  | noTransactionToCommit
  | noTransactionToRollBack
  | nestedTransaction
  /-- The file holds something else than a database. -/
  | notDatabase
  deriving DecidableEq, Repr

namespace SqlFault

/-- The fault itself in words. -/
def text : SqlFault → String
  | unexpected part _ => s!"near \"{shown part}\": syntax error"
  | incomplete => "incomplete input"
  | unrecognized part _ => s!"unrecognized token: \"{shown part}\""
  | misplacedSeparator part => s!"unrecognized token: \"{shown part}\""
  | hexadecimalSize part _ => s!"hex literal too big: {shown part}"
  | empty => "not an error"
  | noTable name => s!"no such table: {shown name}"
  | tableExists part _ => s!"table {shown part} already exists"
  | reservedName name => s!"object name reserved for internal use: {shown name}"
  | noColumn name _ => s!"no such column: {shown name}"
  | noColumnIn table column => s!"table {shown table} has no column named {shown column}"
  | repeatedColumn name => s!"duplicate column name: {shown name}"
  | tooManyColumns table => s!"too many columns on {shown table}"
  | tooManyResultColumns => "too many columns in result set"
  | tooManyTerms => "too many terms in compound SELECT"
  | placeholderRange _ => "variable number must be between ?1 and ?32766"
  | noOrderColumn => "1st ORDER BY term does not match any column in the result set"
  | noTables => "no tables specified"
  | unevenUnion =>
    "SELECTs to the left and right of UNION ALL do not have the same number of result columns"
  | valueCount values columns =>
    s!"{shown (ofNat values)} values for {shown (ofNat columns)} columns"
  | suppliedCount table columns values =>
    let columns := shown (ofNat columns)
    s!"table {shown table} has {columns} columns but {shown (ofNat values)} values were supplied"
  | parameterCount given needed =>
    let given := shown (ofNat given)
    let needed := shown (ofNat needed)
    s!"Wrong number of parameters passed to query. Got {given}, needed {needed}"
  | mismatch => "datatype mismatch"
  | usedNumber table => s!"UNIQUE constraint failed: {shown table}.rowid"
  | readOnly => "attempt to write a readonly database"
  | noTransactionToCommit => "cannot commit - no transaction is active"
  | noTransactionToRollBack => "cannot rollback - no transaction is active"
  | nestedTransaction => "cannot start a transaction within a transaction"
  | notDatabase => "file is not a database"

/-- Where in the bytes of the statement the fault lies. -/
def offset? : SqlFault → Option Nat
  | unexpected _ n | unrecognized _ n | hexadecimalSize _ n | tableExists _ n | noColumn _ n
  | placeholderRange n => some n
  | _ => none

/-- What the database says about the statement `sql`. -/
def message (fault : SqlFault) (sql : Text) : Text :=
  match fault.offset? with
  | some n => s!"{fault.text} in {shown sql} at offset {shown (ofNat n)}"
  | none => fault.text

end SqlFault

end QueryWeave
