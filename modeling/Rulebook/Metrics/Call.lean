import Rulebook.Metrics
import Rulebook.Signature

/-!
# Recording by name

The recordings of a metrics log, called by the names that a service knows them by, with arguments
by position or by name. A call whose arguments do not fit, or cannot be written as labels, records
nothing.
-/

namespace Rulebook.MetricsLog

/-- The name of the recording that counts on the metric of a name. -/
def incrementName : String := "increment_counter"

/-- The recordings that go through, with their parameters. -/
def signatures : List Signature := [
  ⟨"record_http_request", ["method", "endpoint", "status_code", "duration"], []⟩,
  ⟨"record_health_check", ["status"], []⟩,
  ⟨"record_error", ["error_type"], ["service"]⟩,
  ⟨"record_business_event", ["event_type"], ["service"]⟩,
  ⟨"record_rule_evaluation", ["outcome", "matched_rules", "duration"], []⟩,
  ⟨"record_action_failure", ["action_type"], []⟩]

/-- The recording of a name with its arguments bound. -/
def recordBound (name : String) (b : Bound Value) (log : MetricsLog) : Recording :=
  let arg := fun parameter => b.getD parameter .null
  if name = "record_http_request" then
    log.recordHttpRequest (arg "method") (arg "endpoint") (arg "status_code") (arg "duration")
  else if name = "record_health_check" then .done (log.recordHealthCheck (arg "status"))
  else if name = "record_error" then .done (log.recordError (arg "error_type") (arg "service"))
  else if name = "record_business_event" then
    .done (log.recordBusinessEvent (arg "event_type") (arg "service"))
  else if name = "record_rule_evaluation" then
    log.recordRuleEvaluation (arg "outcome") (arg "matched_rules") (arg "duration")
  else .done (log.recordActionFailure (arg "action_type"))

/-- The parameters whose arguments are written as labels. -/
def labelParameters : List String := ["method", "endpoint", "status_code", "status", "error_type",
  "event_type", "service", "outcome", "action_type"]

/-- The recordings that only a log which keeps the metrics of rules makes. -/
def ruleRecordings : List String := ["record_rule_evaluation", "record_action_failure"]

/-- The arguments that a recording writes as labels. -/
def labelArguments (name : String) (b : Bound Value) (log : MetricsLog) : List Value :=
  if ruleRecordings.contains name && !log.keepsRules then []
  else labelParameters.map fun parameter => b.getD parameter .null

/-- The recording of a name with its arguments bound, if its labels can be written. -/
def recordIfWritable (name : String) (b : Bound Value) (log : MetricsLog) : Recording :=
  match (labelArguments name b log).mapM Value.plain? with
  | .ok _ => log.recordBound name b
  | .error fault => ⟨log, some fault⟩

/-- Counts on the metric named by the first parameter; all other names are labels. -/
def callIncrement (positional : List Value) (named : List (String × Value)) (log : MetricsLog) :
    Recording :=
  let isOwn := fun (e : String × Value) => e.1 = "metric_name" || e.1 = "self"
  match Signature.bind? ⟨incrementName, ["metric_name"], []⟩ positional (named.filter isOwn) with
  | .ok b => log.incrementCounter (b.getD "metric_name" .null) (named.filter fun e => !isOwn e)
  | .error fault => ⟨log, some fault⟩

/-- Calls a recording by name. -/
def call (name : String) (positional : List Value) (named : List (String × Value))
    (log : MetricsLog) : Recording :=
  if name = incrementName then log.callIncrement positional named
  else
    match signatures.find? (·.name = name) with
    | none => ⟨log, some (.missingPart "MetricsCollector" name)⟩
    | some signature =>
      match signature.bind? positional named with
      | .ok b => log.recordIfWritable name b
      | .error fault => ⟨log, some fault⟩

end Rulebook.MetricsLog
