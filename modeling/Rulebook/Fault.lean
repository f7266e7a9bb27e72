/-!
# Faults

What can go wrong inside an operation on a tenant's values. A fault is a cause; `Fault.message` is
its wording, which reaches the tenant when an action fails, and `Fault.category` is the family a
caller sees when nothing catches it.
-/

namespace Rulebook

/-- Why an operation on values did not give one. -/
inductive Fault where
  /-- A tree is nested deeper than can be followed. -/
  | tooDeep
  /-- An integer is beyond the largest binary64 number. -/
  | integerTooLarge
  /-- A quotient of integers is beyond the largest binary64 number. -/
  | quotientTooLarge
  /-- A value of this type cannot be a key. -/
  | notHashable (typeName : String)
  /-- A value of this type has no items to go through. -/
  | notIterable (typeName : String)
  /-- A value of this type has no such part. -/
  | missingPart (typeName part : String)
  /-- Digits that are not decimal digits stand where a position is due. The text is quoted. -/
  | notDecimal (quoted : String)
  /-- A position is written with more digits than are read. -/
  | tooManyDigits (count : Nat)
  /-- An integer has more digits than are written. -/
  | integerTooLong
  /-- A value that has to be a number is not one. -/
  | notNumber (name shown : String)
  /-- There is no aggregation of this name. -/
  | unknownAggregation (name : String)
  /-- Arguments do not fit the parameters of what they are given to. -/
  | arguments (reason : String)
  /-- An item that has to be a pair of a key and a value is not one. -/
  | notPair (place length : Nat)
  /-- An item that has to be a pair of a key and a value has no items. -/
  | notSequence (place : Nat)
  /-- A counter is asked to go down. -/
  | negativeIncrement
  /-- The labels given are not those of the metric. -/
  | wrongLabels
  /-- A value of this type cannot be added up or compared. -/
  | notComparable (typeName : String)
deriving DecidableEq

/-- The families of faults. -/
inductive Fault.Category where
  | depth
  | overflow
  | type
  | missingPart
  | value
deriving DecidableEq

namespace Fault

/-- The greatest number of digits that an integer may be read from, and may be written with. -/
def digitLimit : Nat := 4300

/-- The family of a fault. -/
def category : Fault → Category
  | tooDeep => .depth
  | integerTooLarge | quotientTooLarge => .overflow
  | notHashable _ | notIterable _ | arguments _ | notSequence _ | notComparable _ => .type
  | missingPart _ _ => .missingPart
  | notDecimal _ | tooManyDigits _ | integerTooLong | notNumber _ _ | unknownAggregation _
  | notPair _ _ | negativeIncrement | wrongLabels => .value

/-- What tells that there is a limit to digits, and how to raise it. -/
def digitMessage (found : String) : String :=
  "Exceeds the limit (" ++ toString digitLimit ++ " digits) for integer string conversion" ++
    found ++ "; use sys.set_int_max_str_digits() to increase the limit"

/-- The wording of a fault. -/
def message : Fault → String
  | tooDeep => "maximum recursion depth exceeded"
  | integerTooLarge => "int too large to convert to float"
  | quotientTooLarge => "integer division result too large for a float"
  | notHashable typeName => "unhashable type: '" ++ typeName ++ "'"
  | notIterable typeName => "'" ++ typeName ++ "' object is not iterable"
  | missingPart typeName part => "'" ++ typeName ++ "' object has no attribute '" ++ part ++ "'"
  | notDecimal quoted => "invalid literal for int() with base 10: " ++ quoted
  | tooManyDigits count => digitMessage (": value has " ++ toString count ++ " digits")
  | integerTooLong => digitMessage ""
  | notNumber name shown => name ++ " is not a number: " ++ shown
  | unknownAggregation name => "unsupported aggregate operation: " ++ name
  | arguments reason => reason
  | notPair place length =>
    "dictionary update sequence element #" ++ toString place ++ " has length " ++
      toString length ++ "; 2 is required"
  | notSequence place =>
    "cannot convert dictionary update sequence element #" ++ toString place ++ " to a sequence"
  | negativeIncrement => "Counters can only be incremented by non-negative amounts."
  | wrongLabels => "Incorrect label names"
  | notComparable typeName => "'" ++ typeName ++ "' cannot be compared with a number"

/-- What is there, or the fault that it is not. -/
def ifNone {α : Type} (f : Fault) : Option α → Except Fault α
  | some a => .ok a
  | none => .error f

theorem ifNone_eq_ok_iff {α : Type} {f : Fault} {x : Option α} {a : α} :
    f.ifNone x = .ok a ↔ x = some a := by
  cases x with
  | none => simp [ifNone]
  | some b => simp [ifNone]

end Fault

end Rulebook
