import Rulebook.Action.Effect
import Rulebook.Ledger

/-!
# Outcomes

What the actions of a rule lead to, one after the other. Each action stands on its own: when one
fails, its failure is reported as an error and the next one runs. Of two writes to one key the later
one stays; triggered workflows are gathered in a list under a key of their own.

The label of an action is written before the action has a place of its own to fail in. A label that
cannot be written therefore ends everything: nothing is left of what was done before but the
messages that the notifier already has.

## Main definitions

* `Notifier`: who messages are handed to;
* `Outcome`, `Outcome.step`, `Outcome.ofInstructions`;
* `Course`, `Course.ofInstructions`: instructions carried out as far as their labels can be written.
-/

namespace Rulebook

/-- Who messages are handed to: for a message that is refused it gives the reason. -/
structure Notifier where
  refuses : Value → Option String

namespace Notifier

/-- The notifier that takes every message. -/
def silent : Notifier := ⟨fun _ => none⟩

end Notifier

/-- What some actions led to. -/
structure Outcome where
  /-- The values that were written. -/
  values : Ledger
  /-- The errors that were reported, and the failures. -/
  errors : List Value
  /-- The labels of the actions that failed. -/
  failed : List String
  /-- The messages that were handed to the notifier, taken or not. -/
  notified : List Value

namespace Outcome

/-- The outcome of no action. -/
def empty : Outcome := ⟨.empty, [], [], []⟩

/-- The key under which triggered workflows are gathered. -/
def workflowsKey : Value := .text "_triggered_workflows"

/-- The workflows that were triggered so far. -/
def workflows (values : Ledger) : List Value :=
  match values.get? workflowsKey with
  | some (.list items) => items
  | _ => []

/-- The wording of a failure where it has none. -/
def unknownError : String := "Unknown error"

/-- The error that reports a failed action. -/
def failureText (label message : String) : String :=
  "Action " ++ label ++ " failed: " ++ if message.isEmpty then unknownError else message

/-- The outcome with one more failed action. -/
def fail (o : Outcome) (label message : String) : Outcome :=
  { o with
    errors := o.errors ++ [.text (failureText label message)]
    failed := o.failed ++ [label] }

/-- The outcome with one more message handed to a notifier, if there is one. -/
def notify (o : Outcome) (notifier : Option Notifier) (label : String) (message : Value) :
    Outcome :=
  match notifier with
  | none => o
  | some n =>
    let o := { o with notified := o.notified ++ [message] }
    match n.refuses message with
    | none => o
    | some reason => o.fail label reason

/-- The outcome with one more effect. -/
def apply (o : Outcome) (notifier : Option Notifier) (label : String) : Effect → Outcome
  | .nothing => o
  | .write key value => { o with values := o.values.set key value }
  | .report message => { o with errors := o.errors ++ [message] }
  | .notify message => o.notify notifier label message
  | .trigger workflow =>
    { o with
      values := o.values.set workflowsKey (.list (workflows o.values ++ [.text workflow])) }

/-- The outcome with one more instruction carried out. -/
def step (notifier : Option Notifier) (context : Value) (o : Outcome) (i : Instruction) :
    Outcome :=
  match i.effect context with
  | .ok effect => o.apply notifier i.label effect
  | .error failure => o.fail i.label failure.message

/-- The outcome of some instructions, carried out in order, whose labels can be written. -/
def ofInstructions (notifier : Option Notifier) (context : Value) (is : List Instruction) :
    Outcome :=
  is.foldl (step notifier context) empty

end Outcome

/-- What some instructions led to as far as they were carried out, and the fault that ended it, if
there was one. -/
structure Course where
  outcome : Outcome
  fault? : Option Fault

namespace Course

/-- The outcome of instructions that were all carried out. -/
def finish (c : Course) : Except Fault Outcome :=
  match c.fault? with
  | none => .ok c.outcome
  | some fault => .error fault

/-- Carries out instructions in order, after what others led to. -/
def carryOn (notifier : Option Notifier) (context : Value) (o : Outcome) :
    List Instruction → Course
  | [] => ⟨o, none⟩
  | i :: rest =>
    match i.label? with
    | .ok _ => carryOn notifier context (o.step notifier context i) rest
    | .error fault => ⟨o, some fault⟩

/-- Carries out instructions in order. -/
def ofInstructions (notifier : Option Notifier) (context : Value) (is : List Instruction) :
    Course :=
  carryOn notifier context .empty is

end Course

end Rulebook
