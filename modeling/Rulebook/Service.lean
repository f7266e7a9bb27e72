import Rulebook.Engine
import Rulebook.Metrics.Sample
import Rulebook.Report
import Rulebook.Service.Form
import Rulebook.Template

/-!
# The service

The service that evaluates tenants' rules for a storefront, as a function from a request to a
response. All that it keeps from one request to the next are its metrics. What the outside world
adds to a request, the present moment and a fresh id, comes along as an `Occasion`.

A request ends in one of three ways. It is answered; it is refused, with a report of the refusal;
or something unexpected happens, of which the tenant is told nothing. An answer or a report that
cannot be written as JSON is unexpected, too. What ends unexpectedly is not counted as a request.

## Main definitions

* `Content`, `Response`, `Occasion`;
* `Service`, `Service.ofEnvironment?`;
* `Service.respond`: the response to a request, and the service after it;
* `Service.respondAll`: the responses to requests in order.
-/

namespace Rulebook

/-- What a response holds. -/
inductive Content where
  | json (v : Value)
  | issues (is : List Issue)
  | samples (ss : List Sample)
  | page
  /-- A line of plain text. -/
  | line
  | empty

/-- The response to a request. -/
structure Response where
  status : Nat
  /-- The id of the request, unless it ended unexpectedly. -/
  requestId : Option String
  content : Content

/-- What the outside world adds to a request. -/
structure Occasion where
  now : Timestamp
  /-- How many seconds the service has been up. -/
  uptime : Binary64
  /-- How many seconds the request, or the evaluation in it, takes. -/
  elapsed : Binary64
  /-- The id of a request that brings none. -/
  freshId : String

/-- How the work on a request ends. -/
inductive Ending where
  | answered (status : Nat) (content : Content)
  | refused (r : Refusal)
  | unexpected

/-- The work on a request, and the metrics after it. -/
structure Work where
  ending : Ending
  metrics : MetricsLog

/-- A service. -/
structure Service where
  settings : ServiceSettings
  /-- The state of what the service depends on, or the failure to find it out. -/
  dependencies : Except String Value
  /-- The revision that the service was built from. -/
  revision : String
  metrics : MetricsLog

namespace Service

/-- The name of the service. -/
def serviceName : String := "rules"

/-- The port of the service. -/
def port : Int := 8013

/-- The environment variable with the revision. -/
def revisionVariable : String := "GIT_COMMIT"

/-- The service in an environment, or what is wrong with its settings. -/
def ofEnvironment? (environment : List (String × Value)) (dependencies : Except String Value) :
    Except (List Issue) Service :=
  (ServiceSettings.load? environment (.text serviceName) (.int port)).map fun settings =>
    { settings
      dependencies
      revision := ((Value.lookup revisionVariable environment).getD (.text "unknown")).plain
      metrics := .ofService serviceName }

/-- Is the service under development? -/
def isLocal (s : Service) : Bool := s.settings.env == "local"

/-! ### Endings -/

/-- An answer that went well. -/
def answer (v : Value) : Ending := .answered 200 (.json v)

/-- An answer with a message about the request. -/
def detail (status : Nat) (message : String) : Ending :=
  .answered status (.json (.mapping [("detail", .text message)]))

/-- The ending of a failure. -/
def failed : Failure → Ending
  | .refused r => .refused r
  | .fault _ => .unexpected

/-- The ending of a body that does not give what is asked. -/
def misformed : Form.Refused → Ending
  | .unreadable => detail 400 "There was an error parsing the body"
  | .findings fs =>
    if fs.all fun f => f.input.isSent then .answered 422 (.issues (Issue.sort (fs.map (·.issue))))
    else .unexpected

/-! ### Answers -/

/-- The answer about the service itself. -/
def rootAnswer : Value := .mapping [
  ("service", .text serviceName),
  ("message", .text "Storefront - Business Rules Service"),
  ("version", .text MetricsLog.version),
  ("capabilities", .list [.text "rule_evaluation", .text "rule_templates"])]

/-- Checks the health of the service. -/
def checkHealth (s : Service) (o : Occasion) : Work :=
  match s.dependencies with
  | .ok dependencies =>
    ⟨answer (.mapping [
        ("service", .text s.settings.serviceName),
        ("status", .text "ok"),
        ("uptime_seconds", .float o.uptime),
        ("dependencies", dependencies),
        ("version", .text MetricsLog.version),
        ("commit", .text s.revision)]),
      s.metrics.recordHealthCheck (.text "ok")⟩
  | .error message =>
    ⟨.answered 503 (.json (.mapping [
        ("service", .text s.settings.serviceName),
        ("status", .text "error"),
        ("error", .text message)])),
      s.metrics.recordHealthCheck (.text "error")⟩

/-- Is a value a text? -/
def isText : Value → Bool
  | .text _ => true
  | _ => false

/-- The entry of a mapping that a key and a value make, if the key is a text. -/
def entryOf? : Value × Value → Option (String × Value)
  | (.text key, v) => some (key, v)
  | _ => none

/-- The values of a ledger as a mapping, if all keys are texts. -/
def valuesOf? (l : Ledger) : Option Value := (l.entries.mapM entryOf?).map .mapping

/-- Errors as they are answered, if all of them are texts. -/
def errorsOf? (errors : List Value) : Option Value :=
  if errors.all isText then some (.list errors) else none

/-- A result as it is answered, if it can be. -/
def resultAnswer? (r : Result) : Option Value := do
  let errors ← errorsOf? r.outcome.errors
  let values ← valuesOf? r.outcome.values
  return Value.jsonSafe (.mapping [
    ("rule_id", r.ruleId),
    ("matched", .bool r.matched),
    ("actions", .list (r.actions.map Instruction.toValue)),
    ("errors", errors),
    ("applied_values", values)])

/-- Milliseconds in a second. -/
def millisecondsPerSecond : Binary64 := .ofNat 1000

/-- An evaluation as it is answered, if it can be. -/
def evaluationAnswer? (e : Evaluation) (elapsed : Binary64) : Option Value := do
  let errors ← errorsOf? e.merged.errors
  let values ← valuesOf? e.merged.values
  let results ← e.results.mapM resultAnswer?
  return .mapping [
    ("is_valid", .bool e.merged.isValid),
    ("errors", errors),
    ("applied_values", values.jsonSafe),
    ("matched_rules", .int e.merged.matched),
    ("results", .list results),
    ("evaluation_time_ms", .float (elapsed.mul millisecondsPerSecond))]

/-- An answer, or something unexpected where there is none. -/
def answerIf (v : Option Value) : Ending := v.elim .unexpected answer

/-! ### Evaluating -/

/-- The metrics with an event of the business counted. -/
def countEvent (event : String) (log : MetricsLog) : MetricsLog :=
  log.recordBusinessEvent (.text event) .null

/-- The metrics with every message that was handed on counted. -/
def countNotifications (notified : List Value) (log : MetricsLog) : MetricsLog :=
  notified.foldl (fun log _ => countEvent "rule_notification" log) log

/-- The engine of the service: it takes every message and records its evaluations. -/
def engine (log : MetricsLog) : Engine := ⟨some .silent, some log⟩

/-- The metrics after an operation of the engine. -/
def metricsAfter {α : Type} (s : Service) (a : Answer α) : MetricsLog :=
  countNotifications a.notified (a.engine.metrics.getD s.metrics)

/-- The rules of a request, of which there may not be more than the limit. -/
def parseRules? (s : Service) (o : Occasion) (definitions : List Value) :
    Except Failure (List Rule) := do
  let limit := s.settings.maxRules.toNat
  if limit < definitions.length then
    throw (.refused (.tooManyRules definitions.length limit))
  definitions.mapM (Rule.ofValue? o.now)

/-- The rules of a request, or those in the tenant's configuration when the request has none. -/
def rulesOf? (s : Service) (o : Occasion) (form : EvaluationForm) : Except Failure (List Rule) := do
  let rules ← s.parseRules? o form.rules
  if form.rules.isEmpty then
    Fault.orFail (loadRules? o.now ((Value.lookup "tenantConfig" form.context).getD .null))
  else return rules

/-- Evaluates a rule set. -/
def evaluateRuleSet (s : Service) (o : Occasion) (form : EvaluationForm) : Work :=
  match s.rulesOf? o form with
  | .error failure => ⟨failed failure, s.metrics⟩
  | .ok rules =>
    let a := (engine s.metrics).evaluateContext o.elapsed (rules.map .rule)
      (.mapping form.context) form.trigger (form.stop.getD s.settings.stopOnFirstMatch)
    let metrics := s.metricsAfter a
    match a.outcome with
    | .error _ => ⟨.unexpected, metrics⟩
    | .ok e =>
      ⟨answerIf (evaluationAnswer? e o.elapsed), countEvent "rule_set_evaluated" metrics⟩

/-- Evaluates one rule. -/
def evaluateRule (s : Service) (o : Occasion) (form : RuleForm) : Work :=
  match Rule.ofValue? o.now (.mapping form.rule) with
  | .error failure => ⟨failed failure, s.metrics⟩
  | .ok rule =>
    let a := (engine s.metrics).evaluateRule (.rule rule) (.mapping form.context)
    let metrics := s.metricsAfter a
    match a.outcome with
    | .error _ => ⟨.unexpected, metrics⟩
    | .ok r => ⟨answerIf (resultAnswer? r), countEvent "rule_evaluated" metrics⟩

/-- Builds the rule of a template. -/
def buildTemplate (s : Service) (o : Occasion) (category name : String) (form : TemplateForm) :
    Work :=
  match Template.instantiate? o.now (.text category) (.text name) form.positional form.named with
  | .error failure => ⟨failed failure, s.metrics⟩
  | .ok rule => ⟨answer rule.toValue.jsonSafe, countEvent "rule_template_built" s.metrics⟩

/-- The work on a request with a body of a form. -/
def withForm {α : Type} (s : Service) (r : Request) (read : List (String × Value) → Form.Checked α)
    (instead : Option α) (work : α → Work) : Work :=
  match Form.ofBody read instead r.body with
  | .ok form => work form
  | .error refused => ⟨misformed refused, s.metrics⟩

/-- The work on a request for a route. -/
def workOn (s : Service) (o : Occasion) (r : Request) : Route → Work
  | .root => ⟨answer rootAnswer, s.metrics⟩
  | .health => s.checkHealth o
  | .metrics => ⟨.answered 200 (.samples s.metrics.samples), s.metrics⟩
  | .evaluateRuleSet => s.withForm r Form.evaluation none (s.evaluateRuleSet o)
  | .evaluateRule => s.withForm r Form.rule none (s.evaluateRule o)
  | .templates => ⟨answer (.mapping [("templates", Template.listing)]), s.metrics⟩
  | .template category name =>
    s.withForm r Form.template (some ⟨[], []⟩) (s.buildTemplate o category name)
  | .page => ⟨.answered 200 .page, s.metrics⟩

/-- May a browser send requests with a method for pages of other origins? It may when the service is
under development. -/
def admits (s : Service) (method : String) : Bool :=
  s.isLocal && Request.admittedMethods.contains method

/-- The work on a request that goes to its destination. -/
def direct (s : Service) (o : Occasion) (r : Request) : Work :=
  match Destination.of s.isLocal r.path r.verb with
  | .reached route => s.workOn o r route
  | .methodNotAllowed => ⟨detail 405 "Method Not Allowed", s.metrics⟩
  | .elsewhere => ⟨.answered 307 .empty, s.metrics⟩
  | .notFound => ⟨detail 404 "Not Found", s.metrics⟩

/-- The work on a request. One that only asks ahead goes nowhere. -/
def work (s : Service) (o : Occasion) (r : Request) : Work :=
  match r.intendedMethod? with
  | some method => ⟨.answered (if s.admits method then 200 else 400) .line, s.metrics⟩
  | none => s.direct o r

/-! ### Responding -/

/-- Can a response hold this? -/
def carries : Content → Bool
  | .json v => v.isSent
  | _ => true

/-- The code of what nobody expected. -/
def internalCode : String := "INTERNAL_ERROR"

/-- The response to a request that ended unexpectedly; only the error is counted. -/
def respondInternal (s : Service) (log : MetricsLog) : Service × Response :=
  ({ s with metrics := log.recordError (.text internalCode) .null },
    ⟨500, none, .json (.mapping [
      ("code", .text internalCode),
      ("message", .text "Internal server error"),
      ("details", .mapping [])])⟩)

/-- The response to a request that was answered, which is counted. -/
def respondWith (s : Service) (o : Occasion) (r : Request) (requestId : String) (log : MetricsLog)
    (status : Nat) (content : Content) : Service × Response :=
  if carries content then
    let counted := log.recordHttpRequest (.text r.verb) (.text r.path) (.int status)
      (.float o.elapsed)
    ({ s with metrics := counted.log }, ⟨status, some requestId, content⟩)
  else s.respondInternal log

/-- The content that reports a refusal. -/
def reportContent (refusal : Refusal) (requestId : String) : Value := .mapping [
  ("request_id", .text requestId),
  ("code", .text refusal.code),
  ("message", .text refusal.message),
  ("details", .mapping refusal.details)]

/-- The id of a request: the one it brings along, or a fresh one. -/
def requestIdOf (o : Occasion) (r : Request) : String :=
  (r.header? Request.requestIdHeader).getD o.freshId

/-- The response to a request, and the service after it. -/
def respond (s : Service) (o : Occasion) (r : Request) : Service × Response :=
  let requestId := requestIdOf o r
  let w := s.work o r
  match w.ending with
  | .unexpected => s.respondInternal w.metrics
  | .answered status content => s.respondWith o r requestId w.metrics status content
  | .refused refusal =>
    s.respondWith o r requestId (w.metrics.recordError (.text refusal.code) .null)
      refusal.family.status (.json (reportContent refusal requestId))

/-- The responses to requests in order, and the service after them. -/
def respondAll (s : Service) : List (Occasion × Request) → Service × List Response
  | [] => (s, [])
  | (o, r) :: rest =>
    let (next, response) := s.respond o r
    let (last, responses) := next.respondAll rest
    (last, response :: responses)

end Service

end Rulebook
