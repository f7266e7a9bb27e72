import Rulebook.Action
import Rulebook.Signature

/-!
# Building conditions and actions

Conditions and actions composed in code. The constructors are named for what they build. They can
also be called by the name that a tenant's tools know them by, with arguments by position or by
name; a `Piece` is such an argument.

## Main definitions

* `Condition.test`, `Condition.probe`, `Condition.allOf`, `Condition.anyOf`, `Condition.negation`;
* `Action.setField`, `Action.addFee` and the constructors of the other kinds;
* `Condition.build?`, `Action.build?`: building by name.
-/

namespace Rulebook

namespace Condition

/-- A leaf that compares the value under a field with a value. -/
def test (c : Comparison) (field value : Value) : Condition := node (.compare c) field value none

/-- A leaf that looks at the value under a field alone. -/
def probe (c : Comparison) (field : Value) : Condition := node (.compare c) field .absent none

/-- Conditions under a connective. -/
def connecting (c : Connective) (children : List Condition) : Condition :=
  node (.connect c) .null .absent (some children)

/-- Every one of some conditions. -/
def allOf (children : List Condition) : Condition := connecting .every children

/-- Some one of some conditions. -/
def anyOf (children : List Condition) : Condition := connecting .some children

/-- Not a condition. -/
def negation (child : Condition) : Condition := connecting .negated [child]

end Condition

namespace Action

/-- Writes a value under a field. -/
def setField (field value : Value) : Action := { ofKind .setField with field, value }

/-- Writes a fee under a field: a percentage of the total, or a fixed value unless it is `null`. -/
def addFee (field percentage fixed : Value) : Action :=
  { ofKind .addFee with field, percentage, value := if fixed.isNull then .absent else fixed }

/-- Reports an error. -/
def reportError (message : Value) : Action := { ofKind .error with message }

/-- Writes what an operation makes of the items of a source under a field. -/
def aggregate (field operation source : Value) : Action :=
  { ofKind .aggregate with field, operation := operationOf operation, source }

/-- Hands a message to the notifier. -/
def notify (message : Value) : Action := { ofKind .notify with message }

/-- Triggers a workflow. -/
def triggerWorkflow (workflow : Value) : Action := { ofKind .triggerWorkflow with value := workflow }

end Action

/-- What conditions and actions are built from. -/
inductive Piece where
  | value (v : Value)
  | condition (c : Condition)
  | action (a : Action)

namespace Piece

/-- The value that a piece is. -/
def value? : Piece → Except Fault Value
  | value v => .ok v
  | condition _ => .error (.arguments "a condition is no value")
  | action _ => .error (.arguments "an action is no value")

/-- The condition that a piece is. -/
def condition? : Piece → Except Fault Condition
  | condition c => .ok c
  | value v => .error (.missingPart v.typeName "to_dict")
  | action _ => .error (.missingPart "RuleAction" "tree")

end Piece

/-- The value of the argument of a parameter, or another one where it got none. -/
def Bound.value? (b : Bound Piece) (parameter : String) (instead : Value) : Except Fault Value :=
  match b.get? parameter with
  | some piece => piece.value?
  | none => .ok instead

namespace Condition

/-- The comparisons with a value, by the names they are built by, and the name of the parameter
for the value. -/
def testsByName : List (String × Comparison × String) := [
  ("equals", .equal, "value"),
  ("not_equals", .notEqual, "value"),
  ("greater_than", .greater, "value"),
  ("less_than", .less, "value"),
  ("greater_or_equal", .atLeast, "value"),
  ("less_or_equal", .atMost, "value"),
  ("contains", .contains, "value"),
  ("not_contains", .notContains, "value"),
  ("starts_with", .startsWith, "prefix"),
  ("ends_with", .endsWith, "suffix")]

/-- The comparisons with the items of a value, by the names they are built by. -/
def listTestsByName : List (String × Comparison) := [("in_", .among), ("not_in", .notAmong)]

/-- The comparisons with nothing, by the names they are built by. -/
def probesByName : List (String × Comparison) := [("is_empty", .empty), ("is_not_empty", .notEmpty)]

/-- The connectives of any number of conditions, by the names they are built by. -/
def connectivesByName : List (String × Connective) := [("and_", .every), ("or_", .some)]

/-- Builds a comparison with a value. -/
def buildTest? (name : String) (c : Comparison) (parameter : String) (positional : List Piece)
    (named : List (String × Piece)) : Except Fault Condition := do
  let b ← Signature.bind? ⟨name, ["field", parameter], []⟩ positional named
  return test c (← b.value? "field" .null) (← b.value? parameter .absent)

/-- Builds a comparison with the items of a value. -/
def buildListTest? (name : String) (c : Comparison) (positional : List Piece)
    (named : List (String × Piece)) : Except Fault Condition := do
  let b ← Signature.bind? ⟨name, ["field", "values"], []⟩ positional named
  return test c (← b.value? "field" .null) (.list (← (← b.value? "values" .absent).items?))

/-- Builds a comparison with nothing. -/
def buildProbe? (name : String) (c : Comparison) (positional : List Piece)
    (named : List (String × Piece)) : Except Fault Condition := do
  let b ← Signature.bind? ⟨name, ["field"], []⟩ positional named
  return probe c (← b.value? "field" .null)

/-- Builds a connection of any number of conditions; none of them has a name. -/
def buildConnection? (name : String) (c : Connective) (positional : List Piece)
    (named : List (String × Piece)) : Except Fault Condition := do
  let _ ← Signature.bind? ⟨name, [], []⟩ [] named
  return connecting c (← positional.mapM Piece.condition?)

/-- Builds a negation. -/
def buildNegation? (positional : List Piece) (named : List (String × Piece)) :
    Except Fault Condition := do
  let b ← Signature.bind? ⟨"not_", ["condition"], []⟩ positional named
  return negation (← (b.getD "condition" (.value .absent)).condition?)

/-- Builds a condition by name. -/
def build? (name : String) (positional : List Piece) (named : List (String × Piece)) :
    Except Fault Condition :=
  match testsByName.lookup name, listTestsByName.lookup name, probesByName.lookup name,
    connectivesByName.lookup name with
  | some (c, parameter), _, _, _ => buildTest? name c parameter positional named
  | _, some c, _, _ => buildListTest? name c positional named
  | _, _, some c, _ => buildProbe? name c positional named
  | _, _, _, some c => buildConnection? name c positional named
  | _, _, _, _ =>
    if name = "not_" then buildNegation? positional named
    else .error (.missingPart "ConditionBuilder" name)

end Condition

namespace Action

/-- Builds an action by name. -/
def build? (name : String) (positional : List Piece) (named : List (String × Piece)) :
    Except Fault Action := do
  if name = "set_field" then
    let b ← Signature.bind? ⟨name, ["field", "value"], []⟩ positional named
    return setField (← b.value? "field" .null) (← b.value? "value" .absent)
  else if name = "add_fee" then
    let b ← Signature.bind? ⟨name, ["field"], ["percentage", "fixed_value"]⟩ positional named
    return addFee (← b.value? "field" .null) (← b.value? "percentage" .null)
      (← b.value? "fixed_value" .null)
  else if name = "error" then
    let b ← Signature.bind? ⟨name, ["message"], []⟩ positional named
    return reportError (← b.value? "message" .null)
  else if name = "aggregate" then
    let b ← Signature.bind? ⟨name, ["field", "operation", "source"], []⟩ positional named
    return aggregate (← b.value? "field" .null) (← b.value? "operation" .null)
      (← b.value? "source" .null)
  else if name = "notify" then
    let b ← Signature.bind? ⟨name, ["message"], []⟩ positional named
    return notify (← b.value? "message" .null)
  else if name = "trigger_workflow" then
    let b ← Signature.bind? ⟨name, ["workflow_id"], []⟩ positional named
    return triggerWorkflow (← b.value? "workflow_id" .absent)
  else throw (.missingPart "ActionBuilder" name)

end Action

end Rulebook
