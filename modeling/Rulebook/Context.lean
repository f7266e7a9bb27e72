import Rulebook.Value

/-!
# Contexts

A rule is evaluated in a context: a mapping with the entity in question, its type, the tenant's
configuration and whatever else the caller adds.
-/

namespace Rulebook.Context

/-- The names under which a context is built; nothing that is added may use them. -/
def parameters : List String := ["entity", "entity_type", "tenant_config"]

/-- A context: the entity, its type, the tenant's configuration unless it is `null`, and what is
added, which comes last and may replace the others. -/
def build (entity entityType tenantConfig : Value) (added : List (String × Value)) : Value :=
  let tenant := if tenantConfig.isNull then [] else [("tenantConfig", tenantConfig)]
  .mapping <| added.foldl (fun entries e => Value.write e.1 e.2 entries)
    (("entity", entity) :: ("entityType", entityType) :: tenant)

/-- Checks that nothing added uses one of the given names. -/
def checkAdded (taken : List String) (added : List (String × Value)) : Except Fault Unit :=
  match added.find? fun e => taken.contains e.1 with
  | some e => .error (.arguments ("got multiple values for argument '" ++ e.1 ++ "'"))
  | none => .ok ()

end Rulebook.Context
