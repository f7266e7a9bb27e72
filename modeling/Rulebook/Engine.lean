import Rulebook.Context
import Rulebook.Merged
import Rulebook.Metrics

/-!
# The engine

The evaluation of a tenant's rules with everything around it: the choice of the rules registered
for an event, the merging of the results, and the recording of metrics. An `Engine` holds a
notifier and metrics, each if it has one. Every operation gives an `Answer`: what it came to, the
messages it handed to the notifier, and the engine with its metrics brought up to date.

## Main definitions

* `Evaluation`, `Engine`, `Answer`;
* `Engine.evaluateContext`, `Engine.evaluate`, `Engine.calculateOrder`: rule sets, recorded;
* `Engine.evaluateRules`, `Engine.evaluateRule`, `Engine.evaluateSingle`: not recorded;
* `loadRules?`: the rules in a tenant's configuration.
-/

namespace Rulebook

/-- What the evaluation of a rule set came to. -/
structure Evaluation where
  results : List Result
  merged : Merged

namespace Evaluation

/-- The evaluation that gave some results. -/
def ofResults (results : List Result) : Evaluation := ⟨results, .ofResults results⟩

/-- The labels of the actions that failed, in order. -/
def failures (e : Evaluation) : List String := e.results.flatMap (·.outcome.failed)

end Evaluation

namespace MetricsLog

/-- The outcome under which an evaluation is counted. -/
def outcomeText (valid : Bool) : String := if valid then "valid" else "invalid"

/-- Records an evaluation that took some seconds. -/
def recordEvaluation (e : Evaluation) (elapsed : Binary64) (log : MetricsLog) : MetricsLog :=
  let recorded := log.recordRuleEvaluation (.text (outcomeText e.merged.isValid))
    (.int e.merged.matched) (.float elapsed)
  e.failures.foldl (fun log label => log.recordActionFailure (.text label)) recorded.log

end MetricsLog

/-- What rule sets are evaluated with. -/
structure Engine where
  notifier : Option Notifier
  metrics : Option MetricsLog

/-- What an operation of an engine gives. -/
structure Answer (α : Type) where
  outcome : Except Fault α
  /-- The messages that were handed to the notifier. -/
  notified : List Value
  engine : Engine

namespace Engine

/-- The answer of an operation that only fails. -/
def refuse {α : Type} (engine : Engine) (fault : Fault) : Answer α := ⟨.error fault, [], engine⟩

/-- The engine with the metrics of an evaluation recorded. -/
def record (engine : Engine) (elapsed : Binary64) (e : Evaluation) : Engine :=
  { engine with metrics := engine.metrics.map (·.recordEvaluation e elapsed) }

/-- The entity type of a context, which has to be a mapping. -/
def entityType? (context : Value) : Except Fault Value :=
  match context with
  | .mapping entries => .ok ((Value.lookup "entityType" entries).getD .null)
  | other => .error (.missingPart other.typeName "get")

/-- Evaluates the rules registered for an event in a context, merges the results and records them.
The evaluation takes `elapsed` seconds. -/
def evaluateContext (engine : Engine) (elapsed : Binary64) (rules : List Candidate)
    (context event : Value) (stop : Bool) : Answer Evaluation :=
  match Candidate.withTrigger? event rules with
  | .error fault => engine.refuse fault
  | .ok selected =>
    let run := evaluateAll stop engine.notifier context selected
    match run.finish with
    | .error fault => ⟨.error fault, run.notified, engine⟩
    | .ok results =>
      let e := Evaluation.ofResults results
      ⟨(entityType? context).map fun _ => e, run.notified, engine.record elapsed e⟩

/-- The names under which a rule set is evaluated. -/
def evaluateParameters : List String :=
  ["self", "rules", "entity", "entity_type", "tenant_config", "trigger_event",
    "stop_on_first_match"]

/-- What an evaluation is about. -/
structure Subject where
  entity : Value
  entityType : Value
  tenantConfig : Value
  added : List (String × Value)

/-- The context that a subject is evaluated in. -/
def Subject.context (s : Subject) : Value :=
  Context.build s.entity s.entityType s.tenantConfig s.added

/-- Evaluates the rules registered for an event for a subject. -/
def evaluate (engine : Engine) (elapsed : Binary64) (rules : List Candidate) (subject : Subject)
    (event : Value) (stop : Bool) : Answer Evaluation :=
  match Context.checkAdded evaluateParameters subject.added with
  | .error fault => engine.refuse fault
  | .ok () => engine.evaluateContext elapsed rules subject.context event stop

/-- Evaluates rules in a context without recording anything. -/
def evaluateRules (engine : Engine) (rules : List Candidate) (context : Value) (stop : Bool) :
    Answer (List Result) :=
  let run := evaluateAll stop engine.notifier context rules
  ⟨run.finish, run.notified, engine⟩

/-- Evaluates one rule in a context without recording anything. -/
def evaluateRule (engine : Engine) (rule : Candidate) (context : Value) : Answer Result :=
  ⟨rule.evaluate engine.notifier context, rule.notified engine.notifier context, engine⟩

/-- The names under which one rule is evaluated. -/
def evaluateSingleParameters : List String :=
  ["self", "rule", "entity", "entity_type", "tenant_config"]

/-- Evaluates one rule for a subject without recording anything. -/
def evaluateSingle (engine : Engine) (rule : Candidate) (subject : Subject) : Answer Result :=
  match Context.checkAdded evaluateSingleParameters subject.added with
  | .error fault => engine.refuse fault
  | .ok () => engine.evaluateRule rule subject.context

/-! ### Orders -/

/-- What the calculation of an order came to, with the values that a checkout reads. -/
structure OrderCalculation where
  evaluation : Evaluation
  serviceCharge : Value
  deliveryFee : Value
  freeDelivery : Value
  bulkDiscount : Value
  totalCalories : Value

/-- The values of an evaluation that a checkout reads; `null` for one that was not written. -/
def OrderCalculation.ofEvaluation (e : Evaluation) : OrderCalculation :=
  let valueOf := fun key => (e.merged.values.get? (.text key)).getD .null
  { evaluation := e
    serviceCharge := valueOf "service_charge"
    deliveryFee := valueOf "delivery_fee"
    freeDelivery := valueOf "free_delivery_applied"
    bulkDiscount := valueOf "bulk_discount_percent"
    totalCalories := valueOf "total_calories" }

/-- The event for which the calculation of orders is registered. -/
def orderEvent : Value := .text "order.calculate"

/-- Evaluates the rules that calculate orders for one order. -/
def calculateOrder (engine : Engine) (elapsed : Binary64) (rules : List Candidate)
    (order tenantConfig : Value) : Answer OrderCalculation :=
  let answer := engine.evaluate elapsed rules ⟨order, .text "order", tenantConfig, []⟩ orderEvent
    false
  { answer with outcome := answer.outcome.map .ofEvaluation }

end Engine

/-! ### Loading -/

/-- The definitions under `rules` in a tenant's configuration, if they are a list. -/
def tenantDefinitions? (config : Value) : Except Fault (List Value) :=
  match config.orElse (.mapping []) with
  | .mapping entries =>
    match Value.lookup "rules" entries with
    | some (.list definitions) => .ok definitions
    | _ => .ok []
  | other => .error (.missingPart other.typeName "get")

/-- The rules that some definitions give; one that cannot be read is passed over. -/
def readable (now : Timestamp) (definitions : List Value) : List Rule :=
  definitions.filterMap fun v => (Rule.ofValue? now v).toOption

/-- The rules in a tenant's configuration. -/
def loadRules? (now : Timestamp) (config : Value) : Except Fault (List Rule) :=
  (tenantDefinitions? config).map (readable now)

end Rulebook
