import Rulebook.Value.Text

/-!
# Refusals

Why a definition, a template or a request is turned down. A refusal is a cause; its `report` is
what the tenant is told: a code, a wording and details. Where an operation can also run into a
fault that nothing reports, it fails with a `Failure`, which is one or the other.
-/

namespace Rulebook

/-- The families of refusals. -/
inductive Family where
  /-- The service turned something down. -/
  | service
  /-- A request does not hold what it has to. -/
  | validation
  /-- A rule, a condition or an action is not well formed. -/
  | definition
  /-- There is no such template. -/
  | template
deriving DecidableEq

namespace Family

/-- The status with which a request is answered. -/
def status : Family → Nat
  | template => 404
  | _ => 400

/-- Is it the content of a request that was turned down? -/
def isValidation : Family → Bool
  | validation | definition => true
  | _ => false

/-- The code of a family of its own; a refusal of the service brings its code along. -/
def code? : Family → Option String
  | service => none
  | validation => some "VALIDATION_ERROR"
  | definition => some "RULE_DEFINITION_ERROR"
  | template => some "TEMPLATE_NOT_FOUND"

end Family

/-- What a tenant is told about a refusal. -/
structure Report where
  family : Family
  code : Value
  message : Value
  details : Value

/-- Why something is turned down. -/
inductive Refusal where
  /-- A condition is of the type named. -/
  | conditionType (received : String)
  /-- A condition names no operator. -/
  | operatorMissing (condition : Value)
  /-- The children of a condition are not a list. -/
  | childrenNotList (condition : Value)
  /-- An action is not a mapping with a type. -/
  | typeMissing (action : Value)
  /-- A rule is of the type named. -/
  | ruleType (received : String)
  /-- A rule lacks the fields named. -/
  | fieldsMissing (ruleId : Value) (missing : List String)
  /-- The actions of a rule are not a list. -/
  | actionsNotList (ruleId : Value)
  /-- The priority of a rule is not a number. -/
  | priorityNotNumber (ruleId : Value)
  /-- The priority of a rule is infinite or a NaN, written as shown. -/
  | priorityNotFinite (ruleId : Value) (shown : String)
  /-- A stamp of a rule does not read as a timestamp. -/
  | stampUnreadable (ruleId : Value) (stamp written : String)
  /-- There is no such template. -/
  | templateMissing (category name : Value)
  /-- A template cannot be built from the arguments. -/
  | templateArguments (category name : Value) (reason : String)
  /-- More rules than the limit came in one request. -/
  | tooManyRules (given limit : Nat)

namespace Refusal

/-- The family of a refusal. -/
def family : Refusal → Family
  | templateMissing _ _ => .template
  | templateArguments _ _ _ | tooManyRules _ _ => .validation
  | _ => .definition

/-- What the message about a missing template names: the category alone when the name does not
count as given. -/
def target (category name : Value) : String :=
  if name.isTruthy then category.plain ++ "." ++ name.plain else category.plain

/-- Writes what the message about a missing template names. -/
def target? (category name : Value) : Except Fault String := do
  let shown ← category.plain?
  if name.isTruthy then return shown ++ "." ++ (← name.plain?) else return shown

/-- The wording of a refusal. -/
def message : Refusal → String
  | conditionType _ => "Condition must be an object"
  | operatorMissing _ => "Condition is missing 'operator'"
  | childrenNotList _ => "Condition 'conditions' must be a list"
  | typeMissing _ => "Action must be an object with a 'type'"
  | ruleType _ => "Rule must be an object"
  | fieldsMissing _ missing => "Rule is missing required fields: " ++ ", ".intercalate missing
  | actionsNotList _ => "Rule 'actions' must be a list"
  | priorityNotNumber _ => "Rule 'priority' must be a number"
  | priorityNotFinite _ _ => "Rule 'priority' must be a finite number"
  | stampUnreadable _ stamp _ => "Rule '" ++ stamp ++ "' is not an ISO timestamp"
  | templateMissing category name => "Rule template not found: " ++ target category name
  | templateArguments category name reason =>
    "Invalid arguments for template " ++ category.plain ++ "." ++ name.plain ++ ": " ++ reason
  | tooManyRules given limit =>
    "Too many rules in one request: " ++ toString given ++ " (max " ++ toString limit ++ ")"

/-- The details of a refusal. -/
def details : Refusal → List (String × Value)
  | conditionType received | ruleType received => [("received", .text received)]
  | operatorMissing condition | childrenNotList condition => [("condition", condition)]
  | typeMissing action => [("action", action)]
  | fieldsMissing ruleId missing => [("rule_id", ruleId), ("missing", .list (missing.map .text))]
  | actionsNotList ruleId | priorityNotNumber ruleId => [("rule_id", ruleId)]
  | priorityNotFinite ruleId shown => [("rule_id", ruleId), ("priority", .text shown)]
  | stampUnreadable ruleId stamp written => [("rule_id", ruleId), (stamp, .text written)]
  | templateMissing _ _ => []
  | templateArguments category name _ => [("category", category), ("name", name)]
  | tooManyRules given limit =>
    [("rules", .int given), ("max_rules_per_request", .int limit)]

/-- The code of a refusal. -/
def code (r : Refusal) : String := r.family.code?.getD ""

/-- What a tenant is told about a refusal. -/
def report (r : Refusal) : Report where
  family := r.family
  code := .text r.code
  message := .text r.message
  details := .mapping r.details

end Refusal

/-- Why an operation failed: it was refused, or it ran into a fault. -/
inductive Failure where
  | refused (r : Refusal)
  | fault (f : Fault)

namespace Failure

/-- The wording of a failure. -/
def message : Failure → String
  | refused r => r.message
  | fault f => f.message

end Failure

/-- A fault as a failure. -/
def Fault.orFail {α : Type} : Except Fault α → Except Failure α
  | .ok a => .ok a
  | .error f => .error (.fault f)

end Rulebook
