import Rulebook.Journal
import Rulebook.Service

/-!
# Sessions

A service that serves requests one after the other keeps two things between them: its metrics, and
the ids of the request and of the tenant that it is serving. The ids are for the journal, but a
report of a refusal takes the id of its request from there, too. They are set when the work on a
request begins, and forgotten when it is responded to. After a request that ended unexpectedly they
are not forgotten.

## Main definitions

* `Session`: a service with the ids of what it serves;
* `Session.respond`, `Session.respondAll`: the response to a request, and to requests in order.
-/

namespace Rulebook

/-- The header with the id of a tenant. -/
def Request.tenantIdHeader : String := "x-tenant-id"

/-- The value of a header; `null` for one that is not there. -/
def Request.headerValue (r : Request) (name : String) : Value :=
  (r.header? name).elim .null .text

/-- A service with the ids of what it is serving, or served last. -/
structure Session where
  service : Service
  correlation : Correlation

namespace Session

/-- The session of a service that has served nothing yet. -/
def fresh (s : Service) : Session :=
  ⟨{ s with metrics := .ofService s.metrics.service }, .none⟩

/-- Does the work on a request begin with the tenant? It does for evaluations, once the body fits
their form. -/
def namesTenant (s : Service) (r : Request) : Bool :=
  r.intendedMethod?.isNone &&
    match Destination.of s.isLocal r.path r.verb with
    | .reached .evaluateRuleSet => (Form.ofBody Form.evaluation none r.body).toOption.isSome
    | .reached .evaluateRule => (Form.ofBody Form.rule none r.body).toOption.isSome
    | _ => false

/-- The ids while a request is served. -/
def serving (session : Session) (o : Occasion) (r : Request) : Correlation :=
  let named := session.correlation.setRequest (.text o.freshId)
    (r.headerValue Request.requestIdHeader)
  if namesTenant session.service r then named.setTenant (r.headerValue Request.tenantIdHeader)
  else named

/-- The content that reports a refusal of the request that is being served. -/
def reportContent (refusal : Refusal) (c : Correlation) : Value := .mapping [
  ("request_id", c.requestId),
  ("code", .text refusal.code),
  ("message", .text refusal.message),
  ("details", .mapping refusal.details)]

/-- The response to a request, and the session after it. -/
def respond (session : Session) (o : Occasion) (r : Request) : Session × Response :=
  let s := session.service
  let c := session.serving o r
  let requestId := Service.requestIdOf o r
  let w := s.work o r
  let (next, response) :=
    match w.ending with
    | .unexpected => s.respondInternal w.metrics
    | .answered status content => s.respondWith o r requestId w.metrics status content
    | .refused refusal =>
      s.respondWith o r requestId (w.metrics.recordError (.text refusal.code) .null)
        refusal.family.status (.json (reportContent refusal c))
  (⟨next, if response.requestId.isSome then .none else c⟩, response)

/-- The responses to requests in order, and the session after them. -/
def respondAll (session : Session) : List (Occasion × Request) → Session × List Response
  | [] => (session, [])
  | (o, r) :: rest =>
    let (next, response) := session.respond o r
    let (last, responses) := next.respondAll rest
    (last, response :: responses)

end Session

end Rulebook
