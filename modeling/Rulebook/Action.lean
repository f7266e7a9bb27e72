import Rulebook.Refusal
import Rulebook.Condition

/-!
# Actions

What a rule does when it matches. An action has a kind and the fields that its kind reads. A tenant
writes an action as a mapping with a `type`; a kind or an operation that is not known stays as it
was written. In a rule, an `Instruction` is an action that was read or the value it is written as.

## Main definitions

* `ActionKind`, `Aggregation`, `Action`;
* `Action.ofValue?`, `Action.toValue`: reading and writing;
* `Instruction`, with its `label`, which `label?` writes, and its `action?`.
-/

namespace Rulebook

/-- What an action does. -/
inductive ActionKind where
  | setField
  | addFee
  | error
  | aggregate
  | notify
  | triggerWorkflow
  /-- A kind that is not known. -/
  | other (written : Value)

/-- How an action aggregates the items of a list. -/
inductive Aggregation where
  | sum
  | count
  | average
  /-- An operation that is not known. -/
  | other (written : Value)

namespace ActionKind

/-- The kind of a name. -/
def ofName? (name : String) : Option ActionKind :=
  if name = "set_field" then some setField
  else if name = "add_fee" then some addFee
  else if name = "error" then some error
  else if name = "aggregate" then some aggregate
  else if name = "notify" then some notify
  else if name = "trigger_workflow" then some triggerWorkflow
  else none

/-- The kind that a value names. -/
def ofValue (v : Value) : ActionKind :=
  match v with
  | .text name => (ofName? name).getD (other v)
  | _ => other v

/-- A kind as it is written. -/
def toValue : ActionKind → Value
  | setField => .text "set_field"
  | addFee => .text "add_fee"
  | error => .text "error"
  | aggregate => .text "aggregate"
  | notify => .text "notify"
  | triggerWorkflow => .text "trigger_workflow"
  | other written => written

/-- Reading a kind loses nothing. -/
@[simp] theorem toValue_ofValue (v : Value) : (ofValue v).toValue = v := by
  simp only [ofValue]
  split
  · rw [ofName?]
    (repeat' split) <;> simp_all [toValue]
  · rfl

end ActionKind

namespace Aggregation

/-- The operation of a name. -/
def ofName? (name : String) : Option Aggregation :=
  if name = "sum" then some sum
  else if name = "count" then some count
  else if name = "avg" then some average
  else none

/-- The operation that a value names. -/
def ofValue (v : Value) : Aggregation :=
  match v with
  | .text name => (ofName? name).getD (other v)
  | _ => other v

/-- An operation as it is written. -/
def toValue : Aggregation → Value
  | sum => .text "sum"
  | count => .text "count"
  | average => .text "avg"
  | other written => written

/-- Reading an operation loses nothing. -/
@[simp] theorem toValue_ofValue (v : Value) : (ofValue v).toValue = v := by
  simp only [ofValue]
  split
  · rw [ofName?]
    (repeat' split) <;> simp_all [toValue]
  · rfl

end Aggregation

/-- An action of a rule. A field that was not given is `null`, a value that was not given is
absent. -/
structure Action where
  kind : ActionKind
  field : Value
  value : Value
  message : Value
  percentage : Value
  operation : Option Aggregation
  source : Value

namespace Action

/-- An action of a kind without any field. -/
def ofKind (kind : ActionKind) : Action where
  kind
  field := .null
  value := .absent
  message := .null
  percentage := .null
  operation := none
  source := .null

/-- The operation that a value names; `null` names none. -/
def operationOf (v : Value) : Option Aggregation :=
  if v.isNull then none else some (Aggregation.ofValue v)

/-- Reads an action from the entries of a mapping. -/
def ofEntries (kind : Value) (entries : List (String × Value)) : Action where
  kind := ActionKind.ofValue kind
  field := (Value.lookup "field" entries).getD .null
  value := (Value.lookup "value" entries).getD .absent
  message := (Value.lookup "message" entries).getD .null
  percentage := (Value.lookup "percentage" entries).getD .null
  operation := operationOf ((Value.lookup "operation" entries).getD .null)
  source := (Value.lookup "source" entries).getD .null

/-- Reads an action. -/
def ofValue? (v : Value) : Except Failure Action :=
  match v with
  | .mapping entries =>
    match Value.lookup "type" entries with
    | some kind => .ok (ofEntries kind entries)
    | none => .error (.refused (.typeMissing v))
  | _ => .error (.refused (.typeMissing v))

/-- The operation of an action as a value; `null` for none. -/
def operationValue (a : Action) : Value := (a.operation.map Aggregation.toValue).getD .null

/-- The entry for the operation of an action. -/
def operationEntry (a : Action) : List (String × Value) :=
  match a.operation with
  | some op => [("operation", op.toValue)]
  | none => []

/-- An action as it is written. -/
def toValue (a : Action) : Value :=
  .mapping (("type", a.kind.toValue) :: (Condition.unlessAbsent "value" a.value ++
    Condition.unlessNull "field" a.field ++ Condition.unlessNull "message" a.message ++
    Condition.unlessNull "percentage" a.percentage ++ Condition.unlessNull "source" a.source ++
    a.operationEntry))

end Action

/-- An action as it stands in a rule. -/
inductive Instruction where
  /-- An action that was read. -/
  | typed (a : Action)
  /-- An action as a tenant wrote it. -/
  | written (v : Value)

namespace Instruction

/-- The label of a value that names no kind. -/
def unknownLabel : String := "unknown"

/-- The value that names the kind of an instruction. -/
def kindValue : Instruction → Value
  | typed a => a.kind.toValue
  | written v =>
    if v.isMapping then (v.get? "type").getD (.text unknownLabel) else .text unknownLabel

/-- The name under which failures mention an instruction. -/
def label (i : Instruction) : String := i.kindValue.plain

/-- Writes the label of an instruction, which may be too long. -/
def label? (i : Instruction) : Except Fault String := i.kindValue.plain?

/-- The action that an instruction gives. -/
def action? : Instruction → Except Failure Action
  | typed a => .ok a
  | written v => Action.ofValue? v

/-- An instruction as it is written. -/
def toValue : Instruction → Value
  | typed a => a.toValue
  | written v => v

end Instruction

end Rulebook
