import Rulebook.Condition.Tree
import Rulebook.Outcome
import Rulebook.Rule

/-!
# Results of rules

What evaluating one rule in a context gives. A rule that is inactive or whose guard does not hold
does not match and does nothing. A rule that matches carries out its instructions. Where these
cannot be gone through, or come to a label that cannot be written, the rule has no result.

## Main definitions

* `Guard.holds`, `Rule.applies`;
* `Rule.course`: what a rule that applies does;
* `Result`, `Rule.evaluate`.
-/

namespace Rulebook

/-- What evaluating a rule gave. -/
structure Result where
  ruleId : Value
  matched : Bool
  /-- The instructions that were carried out. -/
  actions : List Instruction
  outcome : Outcome

namespace Result

/-- The result of a rule that does not match. -/
def unmatched (ruleId : Value) : Result := ⟨ruleId, false, [], .empty⟩

end Result

namespace Guard

/-- Does a guard hold? A rule without condition is not guarded. A condition nested too deeply does
not hold. -/
def holds (context : Value) : Guard → Bool
  | typed none => true
  | typed (some c) => (c.eval context).toOption.getD false
  | written v => v.isNull || v.isEmptyMapping || ((Tree.ofValue v).eval context).toOption.getD false

end Guard

namespace Rule

/-- Does a rule apply in a context? -/
def applies (r : Rule) (context : Value) : Bool := r.active.isTruthy && r.guard.holds context

/-- The instructions of a rule: those that were read, or the items of the value in their place. -/
def instructions? (r : Rule) : Except Fault (List Instruction) :=
  match r.actions with
  | .inl is => .ok is
  | .inr v => v.givenItems?.map fun items => items.map .written

/-- What a rule does in a context where it applies. -/
def course (notifier : Option Notifier) (context : Value) (r : Rule) : Course :=
  match r.instructions? with
  | .ok is => Course.ofInstructions notifier context is
  | .error fault => ⟨.empty, some fault⟩

/-- Evaluates a rule in a context. -/
def evaluate (notifier : Option Notifier) (context : Value) (r : Rule) : Except Fault Result :=
  if r.applies context then do
    let is ← r.instructions?
    return ⟨r.id, true, is, ← (r.course notifier context).finish⟩
  else .ok (.unmatched r.id)

/-- The messages that a rule hands to the notifier when it is evaluated in a context, also where
this gives no result. -/
def notified (notifier : Option Notifier) (context : Value) (r : Rule) : List Value :=
  if r.applies context then (r.course notifier context).outcome.notified else []

end Rule

end Rulebook
