import Rulebook.Engine

/-!
# Calls of an engine

An engine serves calls one after the other. Each call gets an answer of its own kind; what a later
call finds of an earlier one is the engine with its metrics, and nothing else.

## Main definitions

* `Engine.Call`: what an engine is asked for;
* `Engine.Yield`: what a call comes to;
* `Engine.perform`, `Engine.performAll`: one call, and calls one after the other.
-/

namespace Rulebook.Engine

/-- What an engine is asked for. -/
inductive Call where
  | evaluate (rules : List Candidate) (subject : Subject) (event : Value) (stop : Bool)
  | evaluateContext (rules : List Candidate) (context event : Value) (stop : Bool)
  | calculateOrder (rules : List Candidate) (order tenantConfig : Value)
  | evaluateRules (rules : List Candidate) (context : Value) (stop : Bool)
  | evaluateRule (rule : Candidate) (context : Value)
  | evaluateSingle (rule : Candidate) (subject : Subject)
  /-- The rules of a tenant's configuration are read at a moment. -/
  | loadRules (now : Timestamp) (config : Value)

/-- What a call comes to. -/
inductive Yield where
  | evaluation (e : Evaluation)
  | order (o : OrderCalculation)
  | results (rs : List Result)
  | result (r : Result)
  | rules (rs : List Rule)

/-- The evaluation of a rule set that a call came to. -/
def Yield.evaluation? : Yield → Option Evaluation
  | evaluation e => some e
  | order o => some o.evaluation
  | _ => none

/-- Serves a call, which takes `elapsed` seconds where it is timed. -/
def perform (engine : Engine) (elapsed : Binary64) : Call → Answer Yield
  | .evaluate rules subject event stop =>
    let answer := engine.evaluate elapsed rules subject event stop
    { answer with outcome := answer.outcome.map .evaluation }
  | .evaluateContext rules context event stop =>
    let answer := engine.evaluateContext elapsed rules context event stop
    { answer with outcome := answer.outcome.map .evaluation }
  | .calculateOrder rules order tenantConfig =>
    let answer := engine.calculateOrder elapsed rules order tenantConfig
    { answer with outcome := answer.outcome.map .order }
  | .evaluateRules rules context stop =>
    let answer := engine.evaluateRules rules context stop
    { answer with outcome := answer.outcome.map .results }
  | .evaluateRule rule context =>
    let answer := engine.evaluateRule rule context
    { answer with outcome := answer.outcome.map .result }
  | .evaluateSingle rule subject =>
    let answer := engine.evaluateSingle rule subject
    { answer with outcome := answer.outcome.map .result }
  | .loadRules now config => ⟨(loadRules? now config).map .rules, [], engine⟩

/-- Serves calls one after the other, each with the seconds that it takes, and gives the engine
after them and what each of them came to. -/
def performAll (engine : Engine) : List (Binary64 × Call) → Engine × List (Except Fault Yield)
  | [] => (engine, [])
  | (elapsed, call) :: rest =>
    let answer := engine.perform elapsed call
    let (last, outcomes) := answer.engine.performAll rest
    (last, answer.outcome :: outcomes)

/-- The evaluations of rule sets among what calls came to. -/
def evaluations (outcomes : List (Except Fault Yield)) : List Evaluation :=
  outcomes.filterMap fun outcome => outcome.toOption.bind Yield.evaluation?

end Rulebook.Engine
