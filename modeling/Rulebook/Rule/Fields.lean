import Rulebook.Template

/-!
# Rules from fields

Rules made in code from named fields. `Rule.ofFields?` takes the fields as they are, without
reading any of them; `Draft.ofFields?` reads conditions and actions first.
-/

namespace Rulebook

namespace Rule

/-- The fields of a rule. -/
def signature : Signature where
  name := "rule"
  required := ["id", "name"]
  optional := ["rule_type", "trigger_event", "conditions", "actions", "priority", "is_active",
    "tenant_id", "description", "created_at", "updated_at"]

/-- A stamp that was given, or the present moment. -/
def stampOr (now : Timestamp) : Option Value → Timestamp
  | some (.timestamp t) => t
  | _ => now

/-- A rule with the fields given, none of them read. -/
def ofFields? (now : Timestamp) (fields : List (String × Value)) : Except Fault Rule := do
  let b ← signature.bind? [] fields
  return {
    id := b.getD "id" .null
    name := b.getD "name" .null
    kind := .ofValue (b.getD "rule_type" defaultKind)
    trigger := b.getD "trigger_event" defaultTrigger
    guard := .written (b.getD "conditions" .null)
    actions := .inr (b.getD "actions" (.list []))
    priority := b.getD "priority" defaultPriority
    active := b.getD "is_active" (.bool true)
    tenantId := b.getD "tenant_id" .null
    description := b.getD "description" .null
    created := stampOr now (b.get? "created_at")
    updated := stampOr now (b.get? "updated_at") }

end Rule

namespace Draft

/-- The fields of a draft. -/
def signature : Signature where
  name := "create_rule"
  required := ["name", "rule_type"]
  optional := ["description", "trigger_event", "conditions", "actions", "priority"]

/-- The text that a draft is named by. -/
def nameText? : Value → Except Fault String
  | .text s => .ok s
  | other => .error (.missingPart other.typeName "lower")

/-- The actions of a draft that were not read: there may be none. -/
def noActions? (v : Value) : Except Fault (List Instruction) := do
  match ← v.givenItems? with
  | [] => return []
  | item :: _ => throw (.missingPart item.typeName "to_dict")

/-- The actions of a draft, if they are a list. -/
def readActions? : Value → Except Failure (Option (List Instruction))
  | .list items => (items.mapM Action.ofValue?).map fun as => some (as.map .typed)
  | _ => .ok none

/-- The draft of the fields given. -/
def ofFields? (fields : List (String × Value)) : Except Failure Draft := do
  let condition ← Condition.ofValue? (Rule.fieldOf fields "conditions")
  let written := Rule.fieldOf fields "actions"
  let actions ← readActions? written
  Fault.orFail do
    let b ← signature.bind? [] fields
    let name ← nameText? (b.getD "name" .null)
    return {
      name
      kind := .ofValue (b.getD "rule_type" .null)
      description := b.getD "description" .null
      trigger := b.getD "trigger_event" .null
      guard := .typed condition
      actions := ← actions.elim (noActions? written) pure
      priority := b.getD "priority" .null }

end Draft

end Rulebook
