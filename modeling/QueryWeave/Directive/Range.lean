import QueryWeave.Text.White

/-!
# Ranges

A run can be restricted to named ranges of a document. A range opens at `RANGE BEGIN <name>` and
closes at `RANGE END <name>`; names that were not asked for have no effect.
-/

namespace QueryWeave

open Text

/-- Which ranges were asked for, and whether directives are carried out at the current position. -/
structure RangeGate where
  allowed : List Text
  active : Bool
  deriving DecidableEq, Repr

/-- What is wrong with a range directive. -/
inductive RangeWarning
  | incomplete (body : Text)
  | unknownOperation (word : Text)
  deriving DecidableEq, Repr

namespace RangeGate

/-- The gate at the beginning of a document: open if no names were given. -/
def start : Option (List Text) → RangeGate
  | none => ⟨[], true⟩
  | some names => ⟨names, false⟩

/-- The gate after a range directive. -/
def apply (gate : RangeGate) (body : Text) : RangeGate × Option RangeWarning :=
  match words body with
  | operation :: name :: _ =>
    if ¬ gate.allowed.contains name then (gate, none)
    else if operation = "BEGIN".toList then ({ gate with active := true }, none)
    else if operation = "END".toList then ({ gate with active := false }, none)
    else (gate, some (.unknownOperation operation))
  | _ => (gate, some (.incomplete body))

end RangeGate

end QueryWeave
