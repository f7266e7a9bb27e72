import Rulebook.Proofs.Reading
import Rulebook.Service

/-!
# What Is Refused and What Is Not Foreseen

A definition that cannot be read is refused, and the refusal says why. Three things are not
foreseen, though, and end the reading with a fault: conditions that are nested deeper than can be
followed, a priority that is an integer beyond the largest binary64 number, and an id that is too
long to be written. A request for the evaluation
of rules adds a refusal, when it brings too many rules, and a fault, when it brings none and the
tenant's configuration is something other than a mapping. This is all that can go wrong before an
evaluation begins.

## Main definitions

* `Failure.OfDefinition`, `Failure.OfRequest`: how the reading of a definition fails, and that of
  the rules of a request.

## Main results

* `Rule.failsOnly_ofEntries?`: apart from its condition, its priority and its id, a definition fails
  to read only because it is refused.
* `Rule.failsOnly_ofValue?`: the reading of a definition fails in no other way.
* `Service.failsOnly_rulesOf?`: neither does that of the rules of a request.
* `Failure.OfRequest.report`: what is refused is reported with a status and a code of its own.
-/

namespace Rulebook

/-! ### Definitions -/

namespace Failure

/-- How the reading of a definition fails: it is refused, or one of three things is met that nothing
refuses. -/
inductive OfDefinition : Failure → Prop
  | refused {r : Refusal} : r.family = .definition → OfDefinition (.refused r)
  | tooDeep : OfDefinition (.fault .tooDeep)
  | integerTooLarge : OfDefinition (.fault .integerTooLarge)
  | integerTooLong : OfDefinition (.fault .integerTooLong)

end Failure

open Failure (OfDefinition)

section Definitions

variable {P : Failure → Prop} (hrefused : ∀ r : Refusal, r.family = .definition → P (.refused r))

include hrefused

/-- Reading one node of a condition fails as the reading of one of its children does, or because it
is refused. -/
theorem Condition.failsOnly_readTo?_succ {depth : ℕ} {v : Value}
    (hitems : ∀ items, v.get? "conditions" = some (.list items) →
      ∀ item ∈ items, FailsOnly P (readTo? depth item)) : FailsOnly P (readTo? (depth + 1) v) := by
  cases v with
  | null => exact failsOnly_ok none
  | mapping entries =>
      cases entries with
      | nil => exact failsOnly_ok none
      | cons e rest =>
          simp only [readTo?]
          split
          · exact failsOnly_error (hrefused _ rfl)
          · split
            · exact failsOnly_ok _
            · exact failsOnly_ok _
            · next items hchildren =>
                exact (FailsOnly.mapM (hitems items hchildren)).bind fun _ => failsOnly_ok _
            · exact failsOnly_error (hrefused _ rfl)
  | _ => exact failsOnly_error (hrefused _ rfl)

theorem Action.failsOnly_ofValue? (v : Value) : FailsOnly P (ofValue? v) := by
  cases v with
  | mapping entries =>
      simp only [ofValue?]
      split
      · exact failsOnly_ok _
      · exact failsOnly_error (hrefused _ rfl)
  | _ => exact failsOnly_error (hrefused _ rfl)

namespace Rule

theorem failsOnly_actionsOf? (ruleId v : Value) : FailsOnly P (actionsOf? ruleId v) := by
  rw [actionsOf?]
  split
  · exact failsOnly_ok _
  · exact failsOnly_error (hrefused _ rfl)

/-- A priority that is not an integer fails because it is refused. -/
theorem failsOnly_checkPriority {ruleId v : Value}
    (hint : ∀ n, v = .int n → FailsOnly P (checkPriority ruleId v)) :
    FailsOnly P (checkPriority ruleId v) := by
  cases v with
  | int n => exact hint n rfl
  | float x =>
      rw [checkPriority]
      split
      · exact failsOnly_ok _
      · exact failsOnly_error (hrefused _ rfl)
  | _ => exact failsOnly_error (hrefused _ rfl)

theorem failsOnly_stampOf? (now : Timestamp) (ruleId : Value) (key : String) (v : Value) :
    FailsOnly P (stampOf? now ruleId key v) := by
  cases v with
  | text written =>
      simp only [stampOf?]
      split
      · exact failsOnly_ok _
      · exact failsOnly_error (hrefused _ rfl)
  | _ => exact failsOnly_ok _

/-- The reading of a definition fails as that of its condition, its priority and its id does, or
because it is refused. -/
theorem failsOnly_ofEntries? (now : Timestamp) {entries : List (String × Value)}
    (hcondition : FailsOnly P (Condition.ofValue? (fieldOf entries "conditions")))
    (hint : ∀ n, givenPriority entries = .int n →
      FailsOnly P (checkPriority (fieldOf entries "id") (givenPriority entries)))
    (hid : FailsOnly P (Fault.orFail (fieldOf entries "id").plain?)) :
    FailsOnly P (ofEntries? now entries) := by
  rw [ofEntries?]
  dsimp only
  split
  · exact failsOnly_error (hrefused _ rfl)
  · refine (failsOnly_actionsOf? hrefused _ _).bind fun written => ?_
    refine (failsOnly_checkPriority hrefused hint).bind fun _ => ?_
    refine (failsOnly_stampOf? hrefused _ _ _ _).bind fun created => ?_
    refine (failsOnly_stampOf? hrefused _ _ _ _).bind fun updated => ?_
    refine hid.bind fun _ => ?_
    refine hcondition.bind fun condition => ?_
    refine (FailsOnly.mapM fun v _ => Action.failsOnly_ofValue? hrefused v).bind fun actions => ?_
    exact failsOnly_ok _

end Rule

end Definitions

theorem Condition.failsOnly_readTo? (depth : ℕ) (v : Value) :
    FailsOnly OfDefinition (readTo? depth v) := by
  induction depth generalizing v with
  | zero => exact failsOnly_error .tooDeep
  | succ depth ih =>
      exact failsOnly_readTo?_succ (fun _ => .refused) fun _ _ item _ => ih item

/-- An integer fails to be a priority where it is too large. -/
theorem Rule.failsOnly_checkPriority_int (ruleId : Value) (n : Int) :
    FailsOnly OfDefinition (checkPriority ruleId (.int n)) := by
  rw [checkPriority, Numeral.ofInt]
  refine FailsOnly.map ?_ _
  cases Binary64.ofInt? n with
  | none => exact failsOnly_error .integerTooLarge
  | some x => exact failsOnly_ok x

/-- What writes a value fails where it is too long. -/
theorem Value.failsOnly_plain? (v : Value) : FailsOnly OfDefinition (Fault.orFail v.plain?) := by
  rw [plain?, ifWritable]
  split
  · exact failsOnly_ok _
  · exact failsOnly_error .integerTooLong

/-- **The reading of a definition fails in no other way** than by a refusal of the definition, or by
one of the three faults. -/
theorem Rule.failsOnly_ofValue? (now : Timestamp) (v : Value) :
    FailsOnly OfDefinition (ofValue? now v) := by
  cases v with
  | mapping entries =>
      refine failsOnly_ofEntries? (fun _ => .refused) now (Condition.failsOnly_readTo? _ _) ?_
        (Value.failsOnly_plain? _)
      intro n hn
      rw [hn]
      exact failsOnly_checkPriority_int _ n
  | _ => exact failsOnly_error (.refused rfl)

/-! ### Requests -/

namespace Failure

/-- How the rules of a request fail to be read: as a definition does, or because there are too many
of them, or because the configuration that they are looked for in is no mapping. -/
inductive OfRequest : Failure → Prop
  | definition {f : Failure} : f.OfDefinition → OfRequest f
  | tooMany {given limit : ℕ} : OfRequest (.refused (.tooManyRules given limit))
  | noMapping {typeName : String} : OfRequest (.fault (.missingPart typeName "get"))

/-- The codes of what is refused before an evaluation begins. -/
def requestCodes : List String := ["RULE_DEFINITION_ERROR", "VALIDATION_ERROR"]

/-- **What is refused is reported** with a status and a code of its own. -/
theorem OfRequest.report {r : Refusal} (h : OfRequest (.refused r)) :
    r.family.status = 400 ∧ r.code ∈ requestCodes := by
  have hfamily : r.family = .definition ∨ r.family = .validation := by
    cases h with
    | definition h =>
        cases h with
        | refused hr => exact Or.inl hr
    | tooMany => exact Or.inr rfl
  rw [Refusal.code]
  rcases hfamily with h | h
  · rw [h]
    decide
  · rw [h]
    decide

/-- A fault before an evaluation begins is one of four. -/
theorem OfRequest.fault {f : Fault} (h : OfRequest (.fault f)) :
    f = .tooDeep ∨ f = .integerTooLarge ∨ f = .integerTooLong ∨
      ∃ typeName, f = .missingPart typeName "get" := by
  cases h with
  | definition h =>
      cases h with
      | tooDeep => exact Or.inl rfl
      | integerTooLarge => exact Or.inr (Or.inl rfl)
      | integerTooLong => exact Or.inr (Or.inr (Or.inl rfl))
  | noMapping => exact Or.inr (Or.inr (Or.inr ⟨_, rfl⟩))

end Failure

open Failure (OfRequest)

theorem failsOnly_tenantDefinitions? (config : Value) :
    FailsOnly (fun f => OfRequest (.fault f)) (tenantDefinitions? config) := by
  rw [tenantDefinitions?]
  split
  · split
    · exact failsOnly_ok _
    · exact failsOnly_ok _
  · exact failsOnly_error .noMapping

namespace Service

theorem failsOnly_parseRules? (s : Service) (o : Occasion) (definitions : List Value) :
    FailsOnly OfRequest (s.parseRules? o definitions) := by
  rw [parseRules?]
  dsimp only
  split
  · exact failsOnly_error .tooMany
  · exact FailsOnly.mapM fun v _ => (Rule.failsOnly_ofValue? _ v).mono fun _ => .definition

/-- **The rules of a request fail to be read in no other way.** -/
theorem failsOnly_rulesOf? (s : Service) (o : Occasion) (form : EvaluationForm) :
    FailsOnly OfRequest (s.rulesOf? o form) := by
  rw [rulesOf?]
  refine (s.failsOnly_parseRules? o form.rules).bind fun rules => ?_
  split
  · rw [loadRules?]
    generalize (Value.lookup "tenantConfig" form.context).getD .null = config
    have hconfig := failsOnly_tenantDefinitions? config
    cases hdefinitions : tenantDefinitions? config with
    | error f => exact failsOnly_error (hconfig f hdefinitions)
    | ok definitions => exact failsOnly_ok _
  · exact failsOnly_ok _

end Service

end Rulebook
