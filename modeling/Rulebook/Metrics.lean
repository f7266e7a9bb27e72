import Rulebook.Value.Number
import Rulebook.Value.Equality
import Rulebook.Value.Text

/-!
# Metrics

A service counts what it does. Its metrics are a log: each entry adds an amount to a counter, or an
observation to a histogram, under the labels of the metric. What is exported, the samples, is a
view of the log.

## Main definitions

* `Metric`, with its `name` and its `labelNames`;
* `MetricsLog`, `MetricsLog.add`, `MetricsLog.total`: writing and reading;
* `MetricsLog.recordHttpRequest` and the other recordings, which may fail half way.
-/

namespace Rulebook

/-- What is counted or measured. -/
inductive Metric where
  | httpRequests
  | httpDuration
  | healthChecks
  | errors
  | businessEvents
  | ruleEvaluations
  | rulesMatched
  | actionFailures
  | evaluationDuration
deriving DecidableEq

namespace Metric

/-- The name of a metric. -/
def name : Metric → String
  | httpRequests => "http_requests_total"
  | httpDuration => "http_request_duration_seconds"
  | healthChecks => "health_check_total"
  | errors => "errors_total"
  | businessEvents => "business_events_total"
  | ruleEvaluations => "rule_evaluations_total"
  | rulesMatched => "rules_matched_total"
  | actionFailures => "rule_action_failures_total"
  | evaluationDuration => "rule_evaluation_duration_seconds"

/-- The names of the labels of a metric. -/
def labelNames : Metric → List String
  | httpRequests => ["method", "endpoint", "status_code"]
  | httpDuration => ["method", "endpoint"]
  | healthChecks => ["status"]
  | errors => ["error_type", "service"]
  | businessEvents => ["event_type", "service"]
  | ruleEvaluations => ["outcome"]
  | rulesMatched => []
  | actionFailures => ["action_type"]
  | evaluationDuration => []

/-- Does a metric observe amounts, where others only add them up? -/
def isHistogram : Metric → Bool
  | httpDuration | evaluationDuration => true
  | _ => false

/-- The metrics of every service. -/
def common : List Metric := [httpRequests, httpDuration, healthChecks, errors, businessEvents]

/-- The metrics of the evaluation of rules. -/
def ofRules : List Metric := [ruleEvaluations, rulesMatched, actionFailures, evaluationDuration]

end Metric

/-- An amount added to a metric under the values of its labels. -/
structure MetricEntry where
  metric : Metric
  labels : List String
  amount : Binary64

/-- The metrics of a service: everything that was added, in order. -/
structure MetricsLog where
  service : String
  entries : List MetricEntry

namespace MetricsLog

/-- The service that evaluates rules, which alone has metrics for it. -/
def rulesService : String := "rules"

/-- The log of a service that did nothing yet. -/
def ofService (service : String) : MetricsLog := ⟨service, []⟩

/-- Does the log keep the metrics of the evaluation of rules? -/
def keepsRules (log : MetricsLog) : Bool := log.service == rulesService

/-- The metrics that a log keeps. -/
def kept (log : MetricsLog) : List Metric :=
  if log.keepsRules then Metric.common ++ Metric.ofRules else Metric.common

/-- One more entry. -/
def add (log : MetricsLog) (metric : Metric) (labels : List String) (amount : Binary64) :
    MetricsLog :=
  { log with entries := log.entries ++ [⟨metric, labels, amount⟩] }

/-- The amounts added to a metric under some labels. -/
def amounts (log : MetricsLog) (metric : Metric) (labels : List String) : List Binary64 :=
  (log.entries.filter fun e => e.metric = metric ∧ e.labels = labels).map (·.amount)

/-- What the amounts of a metric under some labels sum up to. -/
def total (log : MetricsLog) (metric : Metric) (labels : List String) : Binary64 :=
  Binary64.sum (log.amounts metric labels)

/-! ### Recordings

What stands in a label is written plainly. A service writes texts and small numbers there; what is
called by name checks its arguments before it records anything (`MetricsLog.call`). -/

/-- A recording that may stop half way: the log as far as it came, and the fault that stopped it. -/
structure Recording where
  log : MetricsLog
  fault? : Option Fault

namespace Recording

/-- A recording that went through. -/
def done (log : MetricsLog) : Recording := ⟨log, none⟩

/-- Goes on with another recording, unless a fault came before. -/
def next (r : Recording) (f : MetricsLog → Recording) : Recording :=
  match r.fault? with
  | none => f r.log
  | some _ => r

end Recording

/-- The amount that a value adds; it has to be a number. -/
def amountOf (v : Value) : Except Fault Binary64 :=
  match v with
  | .bool _ | .int _ | .float _ => v.toNumber
  | _ => .error (.notComparable v.typeName)

/-- Is a number below zero? Integers are not rounded for that. -/
def isNegative : Value → Bool
  | .int n => decide (n < 0)
  | .float x => x.lt .zero
  | _ => false

/-- Counts one. -/
def count (log : MetricsLog) (metric : Metric) (labels : List String) : MetricsLog :=
  log.add metric labels .one

/-- Adds a number to a counter, which cannot go down. -/
def increase (metric : Metric) (labels : List String) (v : Value) (log : MetricsLog) :
    Recording :=
  if isNegative v then ⟨log, some .negativeIncrement⟩
  else
    match amountOf v with
    | .ok amount => .done (log.add metric labels amount)
    | .error fault => ⟨log, some fault⟩

/-- Observes a number. -/
def observe (metric : Metric) (labels : List String) (v : Value) (log : MetricsLog) : Recording :=
  match amountOf v with
  | .ok amount => .done (log.add metric labels amount)
  | .error fault => ⟨log, some fault⟩

/-- Records a request that was answered. -/
def recordHttpRequest (method endpoint status duration : Value) (log : MetricsLog) : Recording :=
  observe .httpDuration [method.plain, endpoint.plain] duration
    (log.count .httpRequests [method.plain, endpoint.plain, status.plain])

/-- Records a check of the health of the service. -/
def recordHealthCheck (status : Value) (log : MetricsLog) : MetricsLog :=
  log.count .healthChecks [status.plain]

/-- The service named, or that of the log where none counts as given. -/
def serviceName (log : MetricsLog) (service : Value) : String :=
  (service.orElse (.text log.service)).plain

/-- Records an error of a type. -/
def recordError (errorType service : Value) (log : MetricsLog) : MetricsLog :=
  log.count .errors [errorType.plain, log.serviceName service]

/-- Records an event of the business. -/
def recordBusinessEvent (eventType service : Value) (log : MetricsLog) : MetricsLog :=
  log.count .businessEvents [eventType.plain, log.serviceName service]

/-- Records the evaluation of a rule set, where the log keeps such metrics. -/
def recordRuleEvaluation (outcome matched duration : Value) (log : MetricsLog) : Recording :=
  if log.keepsRules then
    let log := log.count .ruleEvaluations [outcome.plain]
    let r := if matched.isTruthy then increase .rulesMatched [] matched log else .done log
    r.next (observe .evaluationDuration [] duration)
  else .done log

/-- The values that some named labels give, in the order of the metric's names. -/
def labelled? (metric : Metric) (labels : List (String × Value)) : Option (List Value) :=
  if labels.length = metric.labelNames.length ∧ ¬metric.labelNames.isEmpty then
    metric.labelNames.mapM fun name => Value.lookup name labels
  else none

/-- The label values that some named labels give, written in the order of the metric's names. -/
def labelValues? (metric : Metric) (labels : List (String × Value)) :
    Except Fault (List String) := do
  (← Fault.wrongLabels.ifNone (labelled? metric labels)).mapM Value.plain?

/-- The name of the description of the service, which is no counter. -/
def serviceInfo : String := "service_info"

/-- Counts one on the metric of a name; a name that is not kept is passed over. -/
def incrementCounter (name : Value) (labels : List (String × Value)) (log : MetricsLog) :
    Recording :=
  match name.hashable with
  | .error fault => ⟨log, some fault⟩
  | .ok () =>
    if name.same (.text serviceInfo) then ⟨log, some .wrongLabels⟩
    else
      match log.kept.find? fun m => name.same (.text m.name) with
      | none => .done log
      | some metric =>
        match labelValues? metric labels with
        | .error fault => ⟨log, some fault⟩
        | .ok values =>
          if metric.isHistogram then ⟨log, some (.missingPart "Histogram" "inc")⟩
          else .done (log.count metric values)

/-- Records an action that failed. -/
def recordActionFailure (actionType : Value) (log : MetricsLog) : MetricsLog :=
  if log.keepsRules then log.count .actionFailures [actionType.plain] else log

end MetricsLog

end Rulebook
