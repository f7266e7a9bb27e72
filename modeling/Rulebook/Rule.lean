import Rulebook.Action
import Rulebook.Numeral
import Rulebook.Text.Search
import Rulebook.Timestamp.Reading
import Rulebook.Timestamp.Writing

/-!
# Rules

A rule says when it applies, by a trigger and a guard, and what it then does, by a list of
instructions. A tenant writes a rule as a mapping. Its id and name have to be given, and its
priority has to be a finite number; everything else has a default. Only values are read: a rule, a
condition or an action that is one already is not given back as it is.

## Main definitions

* `RuleKind`, `Guard`, `Rule`;
* `Rule.ofValue?`, `Rule.toValue`: reading and writing.
-/

namespace Rulebook

/-- What a rule is for. Evaluation does not look at it. -/
inductive RuleKind where
  | validation
  | calculation
  | workflow
  | constraint
  /-- A kind that is not known. -/
  | other (written : Value)

namespace RuleKind

/-- The kind of a name. -/
def ofName? (name : String) : Option RuleKind :=
  if name = "validation" then some validation
  else if name = "calculation" then some calculation
  else if name = "workflow" then some workflow
  else if name = "constraint" then some constraint
  else none

/-- The kind that a value names. -/
def ofValue (v : Value) : RuleKind :=
  match v with
  | .text name => (ofName? name).getD (other v)
  | _ => other v

/-- The name of a kind, as it is written. -/
def toValue : RuleKind → Value
  | validation => .text "validation"
  | calculation => .text "calculation"
  | workflow => .text "workflow"
  | constraint => .text "constraint"
  | other written => written

/-- Reading a kind loses nothing. -/
@[simp] theorem toValue_ofValue (v : Value) : (ofValue v).toValue = v := by
  simp only [ofValue]
  split
  · rw [ofName?]
    (repeat' split) <;> simp_all [toValue]
  · rfl

end RuleKind

/-- The condition of a rule, as it was read or as it is written. -/
inductive Guard where
  | typed (c : Option Condition)
  | written (v : Value)

/-- A rule. -/
structure Rule where
  id : Value
  name : Value
  kind : RuleKind
  /-- The event that the rule is registered for. -/
  trigger : Value
  guard : Guard
  /-- What the rule does when it matches; a value with items where it was not read. -/
  actions : List Instruction ⊕ Value
  /-- Rules of smaller priority come first. -/
  priority : Value
  /-- A rule whose `active` does not count as given never matches. -/
  active : Value
  tenantId : Value
  description : Value
  created : Timestamp
  updated : Timestamp

namespace Guard

/-- A guard as it is written. -/
def toValue : Guard → Value
  | typed c => Condition.optionToValue c
  | written v => v

end Guard

namespace Rule

/-- The trigger of a rule that names none. -/
def defaultTrigger : Value := .text "manual"

/-- The kind of a rule that names none. -/
def defaultKind : Value := .text "validation"

/-- The priority of a rule that gives none. -/
def defaultPriority : Value := .int 100

/-! ### Reading -/

/-- The fields that have to be given. -/
def requiredFields : List String := ["id", "name"]

/-- The value of a field, `null` when it is not there. -/
def fieldOf (entries : List (String × Value)) (key : String) : Value :=
  (Value.lookup key entries).getD .null

/-- The required fields that are not given. -/
def missingFields (entries : List (String × Value)) : List String :=
  requiredFields.filter fun key => !(fieldOf entries key).isTruthy

/-- The written actions: the items of a list, and none for a value that does not count as given. -/
def actionsOf? (ruleId v : Value) : Except Failure (List Value) :=
  match v.orElse (.list []) with
  | .list items => .ok items
  | _ => .error (.refused (.actionsNotList ruleId))

/-- Checks a priority: a finite number, and not an integer that is too large for one. -/
def checkPriority (ruleId v : Value) : Except Failure Unit :=
  match v with
  | .int n => (Fault.orFail (Numeral.ofInt n)).map fun _ => ()
  | .float x => if x.isFinite then .ok () else .error (.refused (.priorityNotFinite ruleId v.plain))
  | _ => .error (.refused (.priorityNotNumber ruleId))

/-- The timestamp that a text writes; a `Z` at any place stands for a zero offset. -/
def readStamp? (s : String) : Option Timestamp :=
  Timestamp.read? (Text.replace 'Z' "+00:00".toList s.toList)

/-- The stamp under a key; the present moment when there is neither a text nor a timestamp. -/
def stampOf? (now : Timestamp) (ruleId : Value) (key : String) (v : Value) :
    Except Failure Timestamp :=
  match v with
  | .timestamp t => .ok t
  | .text s =>
    match readStamp? s with
    | some t => .ok t
    | none => .error (.refused (.stampUnreadable ruleId key s))
  | _ => .ok now

/-- Reads a rule from the entries of a mapping. -/
def ofEntries? (now : Timestamp) (entries : List (String × Value)) : Except Failure Rule := do
  let id := fieldOf entries "id"
  let missing := missingFields entries
  if !missing.isEmpty then throw (.refused (.fieldsMissing id missing))
  let actions ← actionsOf? id (fieldOf entries "actions")
  let priority := (Value.lookup "priority" entries).getD defaultPriority
  checkPriority id priority
  let created ← stampOf? now id "created_at" (fieldOf entries "created_at")
  let updated ← stampOf? now id "updated_at" (fieldOf entries "updated_at")
  let writtenId ← Fault.orFail id.plain?
  let condition ← Condition.ofValue? (fieldOf entries "conditions")
  let actions ← actions.mapM Action.ofValue?
  return {
    id := .text writtenId
    name := fieldOf entries "name"
    kind := RuleKind.ofValue ((Value.lookup "rule_type" entries).getD defaultKind)
    trigger := (fieldOf entries "trigger_event").orElse defaultTrigger
    guard := .typed condition
    actions := .inl (actions.map .typed)
    priority
    active := .bool ((Value.lookup "is_active" entries).getD (.bool true)).isTruthy
    tenantId := fieldOf entries "tenant_id"
    description := fieldOf entries "description"
    created
    updated }

/-- Reads a rule, `now` being the stamp of a rule that gives none. -/
def ofValue? (now : Timestamp) (v : Value) : Except Failure Rule :=
  match v with
  | .mapping entries => ofEntries? now entries
  | other => .error (.refused (.ruleType other.receivedName))

/-! ### Writing -/

/-- The actions of a rule as they are written. -/
def actionsToValue : List Instruction ⊕ Value → Value
  | .inl is => .list (is.map Instruction.toValue)
  | .inr v => v

/-- A rule as it is written. -/
def toValue (r : Rule) : Value := .mapping [
  ("id", r.id),
  ("tenant_id", r.tenantId),
  ("name", r.name),
  ("description", r.description),
  ("rule_type", r.kind.toValue),
  ("trigger_event", r.trigger),
  ("conditions", r.guard.toValue),
  ("actions", actionsToValue r.actions),
  ("priority", r.priority),
  ("is_active", r.active),
  ("created_at", .text (r.created.isoText 'T')),
  ("updated_at", .text (r.updated.isoText 'T'))]

end Rule

end Rulebook
