import Rulebook.Result
import Rulebook.Value.Number

/-!
# Rule sets

The rules of a tenant are evaluated in the order of their priorities, those of one priority in the
order in which they stand. What stands among the rules may be no rule at all; it then never
matches, but nobody can ask it for its trigger.

## Main definitions

* `Candidate`: what stands in the place of a rule;
* `Candidate.inOrder`: the order of evaluation;
* `Run`, `Run.ofCandidates`, `evaluateAll`: evaluation one after the other, to the end or to the
  first match;
* `Candidate.withTrigger?`: the rules registered for an event.
-/

namespace Rulebook

/-- What stands in the place of a rule. -/
inductive Candidate where
  | rule (r : Rule)
  | other (v : Value)

namespace Candidate

/-- The id of a rule; `null` for what is none. -/
def id : Candidate → Value
  | rule r => r.id
  | other _ => .null

/-- Evaluates a candidate in a context. -/
def evaluate (notifier : Option Notifier) (context : Value) : Candidate → Except Fault Result
  | rule r => r.evaluate notifier context
  | other _ => .ok (.unmatched .null)

/-- The messages that a candidate hands to the notifier when it is evaluated in a context. -/
def notified (notifier : Option Notifier) (context : Value) : Candidate → List Value
  | rule r => r.notified notifier context
  | other _ => []

/-- The candidates that stand for a value which is no list of rules: its items. -/
def ofValue? (v : Value) : Except Fault (List Candidate) :=
  v.givenItems?.map fun items => items.map .other

/-! ### Order -/

/-- The priority as a number; what has none comes last. -/
def sortKey : Candidate → Except Fault Binary64
  | rule r => r.priority.toNumber.map fun x => if x.isNaN then .infinite false else x
  | other _ => .ok (.infinite false)

/-- A candidate with its sort key. -/
def keyed (c : Candidate) : Except Fault (Binary64 × Candidate) := c.sortKey.map (·, c)

/-- Candidates with their sort keys, by ascending key. -/
def sortKeyed (cs : List (Binary64 × Candidate)) : List (Binary64 × Candidate) :=
  cs.mergeSort fun c d => c.1.le d.1

/-- Candidates by ascending priority, those of one priority as they stand. -/
def inOrder (cs : List Candidate) : Except Fault (List Candidate) :=
  (cs.mapM keyed).map fun keyed => (sortKeyed keyed).map Prod.snd

/-! ### Triggers -/

/-- Is a candidate registered for an event? -/
def hasTrigger? (event : Value) : Candidate → Except Fault Bool
  | rule r => .ok (r.trigger.same event)
  | other v => .error (.missingPart v.typeName "trigger_event")

/-- The candidates that are registered for an event. -/
def registered? (event : Value) : List Candidate → Except Fault (List Candidate)
  | [] => .ok []
  | c :: rest => do
    let keep ← c.hasTrigger? event
    let kept ← registered? event rest
    return if keep then c :: kept else kept

/-- The candidates that are registered for an event; all of them when no event is given. -/
def withTrigger? (event : Value) (cs : List Candidate) : Except Fault (List Candidate) :=
  if event.isTruthy then registered? event cs else .ok cs

end Candidate

/-- What evaluating candidates one after the other gave: the results, up to a fault if there was
one, and the messages that were handed to the notifier on the way. -/
structure Run where
  results : List Result
  fault? : Option Fault
  notified : List Value

namespace Run

/-- The results of a run that went through. -/
def finish (run : Run) : Except Fault (List Result) :=
  match run.fault? with
  | none => .ok run.results
  | some fault => .error fault

/-- Evaluates candidates in the order given; with `stop`, none after the first that matches. -/
def ofCandidates (stop : Bool) (notifier : Option Notifier) (context : Value) :
    List Candidate → Run
  | [] => ⟨[], none, []⟩
  | c :: rest =>
    let sent := c.notified notifier context
    match c.evaluate notifier context with
    | .error fault => ⟨[], some fault, sent⟩
    | .ok result =>
      if stop && result.matched then ⟨[result], none, sent⟩
      else
        let run := ofCandidates stop notifier context rest
        ⟨result :: run.results, run.fault?, sent ++ run.notified⟩

end Run

/-- Evaluates candidates in the order of their priorities. -/
def evaluateAll (stop : Bool) (notifier : Option Notifier) (context : Value)
    (cs : List Candidate) : Run :=
  match Candidate.inOrder cs with
  | .ok ordered => Run.ofCandidates stop notifier context ordered
  | .error fault => ⟨[], some fault, []⟩

end Rulebook
