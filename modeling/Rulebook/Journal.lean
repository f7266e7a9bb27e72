import Rulebook.Signature
import Rulebook.Text.Search
import Rulebook.Value

/-!
# The journal

Every event that a service logs is enriched: with the name of its logger and its level, with the
service that it comes from, and with the ids of the request and of the tenant that are being
served, if there are any.

## Main definitions

* `Correlation`: the ids of what is being served;
* `Journal.enrich?`: an event as it is logged.
-/

namespace Rulebook

/-- The ids of the request and of the tenant that are being served, `null` for none. -/
structure Correlation where
  requestId : Value
  tenantId : Value

namespace Correlation

/-- Nothing is being served. -/
def none : Correlation := ⟨.null, .null⟩

/-- A request is being served; one without an id gets a fresh one. -/
def setRequest (c : Correlation) (fresh requestId : Value) : Correlation :=
  { c with requestId := if requestId.isNull then fresh else requestId }

/-- A tenant is being served; an id that does not count as given changes nothing. -/
def setTenant (c : Correlation) (tenantId : Value) : Correlation :=
  if tenantId.isTruthy then { c with tenantId } else c

end Correlation

namespace Journal

/-- The level of a method of logging; two methods are second names of others. -/
def levelOf (method : String) : String :=
  if method = "warn" then "warning"
  else if method = "exception" then "error"
  else method

/-- The fields of an event that are only meant for the logging itself. -/
def internalFields : List String := ["stack_info", "exc_info", "timestamp"]

/-- The service that a logger belongs to: the first part of its name. -/
def serviceOf (logger : String) : String :=
  String.ofList ((Text.splitOn '.' logger.toList).headD [])

/-- An event with the service of its logger, unless it names one. -/
def addService (event : List (String × Value)) : Except Fault (List (String × Value)) :=
  match (Value.lookup "logger" event).getD .null with
  | .text logger =>
    if logger.isEmpty || (Value.lookup "service" event).isSome then .ok event
    else .ok (Value.write "service" (.text (serviceOf logger)) event)
  | other => if other.isTruthy then .error (.missingPart other.typeName "split") else .ok event

/-- An event with one more field, if its value counts as given. -/
def addGiven (key : String) (v : Value) (event : List (String × Value)) : List (String × Value) :=
  if v.isTruthy then Value.write key v event else event

/-- An event as it is logged by a method of a logger. -/
def enrich? (c : Correlation) (logger method : String) (event : List (String × Value)) :
    Except Fault (List (String × Value)) := do
  let named := addGiven "logger" (.text logger) event
  let leveled := Value.write "level" (.text (levelOf method)) named
  let kept := leveled.filter fun e => !internalFields.contains e.1
  let placed ← addService kept
  return addGiven "tenant_id" c.tenantId (addGiven "request_id" c.requestId placed)

end Journal

end Rulebook
