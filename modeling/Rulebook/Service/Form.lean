import Rulebook.Issue
import Rulebook.Json.Reader
import Rulebook.Json.Safe
import Rulebook.Service.Request
import Rulebook.Settings

/-!
# Forms of bodies

The body of a request has a form: a mapping with some fields, each of a kind, of which some have to
be there. Everything that does not fit is found, each `Finding` with the input that it was found in.

## Main definitions

* `Finding`, `Form.Checked`;
* `EvaluationForm`, `RuleForm`, `TemplateForm` and their readers.
-/

namespace Rulebook

/-- Something in an input that does not fit. -/
structure Finding where
  issue : Issue
  input : Value

namespace Form

/-- A part of a form as far as it fits, and what does not fit. -/
abbrev Checked (α : Type) : Type := α × List Finding

/-- The place of the body of a request. -/
def bodyPlace : String := "body"

/-- One thing that does not fit. -/
def finding (place : List String) (kind : IssueKind) (input : Value) : List Finding :=
  [⟨⟨bodyPlace :: place, kind⟩, input⟩]

/-- A mapping. -/
def mapping (place : List String) (v : Value) : Checked (List (String × Value)) :=
  match v with
  | .mapping entries => (entries, [])
  | other => ([], finding place .notMapping other)

/-- A field that has to be there and to be a mapping. -/
def requiredMapping (entries : List (String × Value)) (name : String) :
    Checked (List (String × Value)) :=
  match Value.lookup name entries with
  | some v => mapping [name] v
  | none => ([], finding [name] .missing (.mapping entries))

/-- A field that is a mapping, empty when it is not there. -/
def optionalMapping (entries : List (String × Value)) (name : String) :
    Checked (List (String × Value)) :=
  match Value.lookup name entries with
  | some v => mapping [name] v
  | none => ([], [])

/-- A field that is a list, empty when it is not there. -/
def optionalList (entries : List (String × Value)) (name : String) : Checked (List Value) :=
  match Value.lookup name entries with
  | some (.list items) => (items, [])
  | some other => ([], finding [name] .notList other)
  | none => ([], [])

/-- What among the items of a list, from a position on, is no mapping. -/
def itemFindings (name : String) (position : Nat) : List Value → List Finding
  | [] => []
  | v :: rest => (mapping [name, toString position] v).2 ++ itemFindings name (position + 1) rest

/-- A field that is a text, `null` when it is not there. -/
def optionalText (entries : List (String × Value)) (name : String) : Checked Value :=
  match Value.lookup name entries with
  | none | some .null => (.null, [])
  | some (.text s) => (.text s, [])
  | some other => (.null, finding [name] .notText other)

/-- A field that is a truth value, perhaps not there. -/
def optionalBool (entries : List (String × Value)) (name : String) : Checked (Option Bool) :=
  match Value.lookup name entries with
  | none | some .null => (none, [])
  | some v =>
    match Setting.bool? v with
    | .ok b => (some b, [])
    | .error kind => (none, finding [name] kind v)

end Form

/-- What is asked of the evaluation of a rule set. -/
structure EvaluationForm where
  rules : List Value
  context : List (String × Value)
  trigger : Value
  stop : Option Bool

/-- What is asked of the evaluation of one rule. -/
structure RuleForm where
  rule : List (String × Value)
  context : List (String × Value)

/-- What a template is built from. -/
structure TemplateForm where
  positional : List Value
  named : List (String × Value)

namespace Form

/-- Reads what is asked of the evaluation of a rule set. -/
def evaluation (entries : List (String × Value)) : Checked EvaluationForm :=
  let (rules, listFindings) := optionalList entries "rules"
  let (context, contextFindings) := requiredMapping entries "context"
  let (trigger, triggerFindings) := optionalText entries "trigger_event"
  let (stop, stopFindings) := optionalBool entries "stop_on_first_match"
  (⟨rules, context, trigger, stop⟩, listFindings ++ itemFindings "rules" 0 rules ++
    contextFindings ++ triggerFindings ++ stopFindings)

/-- Reads what is asked of the evaluation of one rule. -/
def rule (entries : List (String × Value)) : Checked RuleForm :=
  let (rule, ruleFindings) := requiredMapping entries "rule"
  let (context, contextFindings) := requiredMapping entries "context"
  (⟨rule, context⟩, ruleFindings ++ contextFindings)

/-- Reads what a template is built from. -/
def template (entries : List (String × Value)) : Checked TemplateForm :=
  let (positional, listFindings) := optionalList entries "args"
  let (named, mappingFindings) := optionalMapping entries "kwargs"
  (⟨positional, named⟩, listFindings ++ mappingFindings)

/-- Why a body does not give what is asked. -/
inductive Refused where
  /-- Something in it does not fit. -/
  | findings (fs : List Finding)
  /-- It cannot be read at all. -/
  | unreadable

/-- Reads a body by a form; `instead` is what no body gives, if there has to be none. -/
def ofBody {α : Type} (read : List (String × Value) → Checked α) (instead : Option α)
    (body : Body) : Except Refused α :=
  match body with
  | none =>
    match instead with
    | some a => .ok a
    | none => .error (.findings (finding [] .missing .null))
  | some (.error (.malformed _ place)) =>
    .error (.findings (finding [toString place] .notJson (.mapping [])))
  | some (.error _) => .error .unreadable
  | some (.ok v) =>
    match v, instead with
    | .null, some a => .ok a
    | .mapping entries, _ =>
      match read entries with
      | (a, []) => .ok a
      | (_, findings) => .error (.findings findings)
    | other, _ => .error (.findings (finding [] .notFields other))

end Form

end Rulebook
