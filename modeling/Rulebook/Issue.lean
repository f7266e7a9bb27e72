/-!
# Issues

What is wrong with a part of some input that has a fixed form: where the part is, and what it would
have to be. Issues are reported together, in the order of their places and kinds.
-/

namespace Rulebook

/-- What is wrong with a part. -/
inductive IssueKind where
  | missing
  | notText
  | notInteger
  | integerUnreadable
  | integerTooLong
  | hasFraction
  | notFinite
  | notTruthValue
  | truthValueUnreadable
  | tooSmall
  | notMapping
  | notList
  | notFields
  | notJson
deriving DecidableEq

/-- The name of a kind of issue. -/
def IssueKind.name : IssueKind → String
  | missing => "missing"
  | notText => "string_type"
  | notInteger => "int_type"
  | integerUnreadable => "int_parsing"
  | integerTooLong => "int_parsing_size"
  | hasFraction => "int_from_float"
  | notFinite => "finite_number"
  | notTruthValue => "bool_type"
  | truthValueUnreadable => "bool_parsing"
  | tooSmall => "greater_than_equal"
  | notMapping => "dict_type"
  | notList => "list_type"
  | notFields => "model_attributes_type"
  | notJson => "json_invalid"

/-- Something wrong at a place, which is given by the names and positions that lead there. -/
structure Issue where
  place : List String
  kind : IssueKind
deriving DecidableEq

namespace Issue

/-- Is a place before another one? -/
def placeBefore : List String → List String → Bool
  | [], _ => true
  | _ :: _, [] => false
  | a :: as, b :: bs => if a = b then placeBefore as bs else decide (a < b)

/-- Is an issue before another one, or in the same place? -/
def before (i j : Issue) : Bool :=
  if i.place = j.place then decide (i.kind.name ≤ j.kind.name) else placeBefore i.place j.place

/-- Issues in the order in which they are reported. -/
def sort (is : List Issue) : List Issue := is.mergeSort before

/-- The issues of a part, seen from what it is a part of. -/
def under (name : String) (is : List Issue) : List Issue :=
  is.map fun i => { i with place := name :: i.place }

end Issue

end Rulebook
