import Rulebook.Proofs.Binding
import Rulebook.Proofs.Pruning
import Rulebook.Proofs.Run
import Rulebook.Rule.Fields

/-!
# Evaluating What Is Written

A rule may be read from its definition, or made of the fields as they are written, in which nothing
is read before it is evaluated. Both mean the same: an instruction that is written has the label
and the effect of the action that is read from it, and a guard that is written holds as the
condition that is read from it does, once it is pruned.

## Main definitions

* `Rule.fieldsWith`, `Rule.withWritten`: the fields of a rule and the rule they make, with a
  condition and actions that are written.

## Main results

* `Course.ofInstructions_written`: written actions lead to what the actions read from them do, and
  come to the same end.
* `evaluate_withWritten`: a rule that was read evaluates as the rule made of what is written.
-/

namespace Rulebook

/-! ### Instructions -/

namespace Instruction

variable {v : Value} {a : Action}

/-- A written action names the kind of the action that is read from it. -/
theorem kindValue_written (h : Action.ofValue? v = .ok a) :
    (written v).kindValue = (typed a).kindValue := by
  obtain ⟨entries, kind, rfl, hkind, rfl⟩ := Action.ofValue?_eq_ok_iff.mp h
  have hget : (Value.mapping entries).get? "type" = some kind := hkind
  have htyped : (typed (Action.ofEntries kind entries)).kindValue = kind :=
    ActionKind.toValue_ofValue kind
  rw [htyped, kindValue, hget]
  rfl

theorem label_written (h : Action.ofValue? v = .ok a) : (written v).label = (typed a).label :=
  congrArg Value.plain (kindValue_written h)

/-- The label of a written action is written as that of the action that is read from it. -/
theorem label?_written (h : Action.ofValue? v = .ok a) : (written v).label? = (typed a).label? :=
  congrArg Value.plain? (kindValue_written h)

/-- A written action does what the action that is read from it does. -/
theorem effect_written (h : Action.ofValue? v = .ok a) (context : Value) :
    (written v).effect context = (typed a).effect context := by
  have haction : (written v).action? = (typed a).action? := h
  simp only [effect]
  rw [haction]

end Instruction

section Outcome

variable {notifier : Option Notifier} {context : Value}

theorem Outcome.step_written {v : Value} {a : Action} (h : Action.ofValue? v = .ok a)
    (o : Outcome) : step notifier context o (.written v) = step notifier context o (.typed a) := by
  simp only [step]
  rw [Instruction.label_written h, Instruction.effect_written h]

/-- **Written actions lead to what the actions read from them lead to**, and where a label cannot be
written, to the same end. -/
theorem Course.ofInstructions_written {items : List Value} {actions : List Action}
    (h : List.Forall₂ (fun v a => Action.ofValue? v = .ok a) items actions) :
    ofInstructions notifier context (items.map .written) =
      ofInstructions notifier context (actions.map .typed) := by
  simp only [ofInstructions]
  generalize Outcome.empty = o
  induction h generalizing o with
  | nil => rfl
  | @cons v a _ _ hhead _ ih =>
      rw [List.map_cons, List.map_cons, carryOn, carryOn, Instruction.label?_written hhead,
        Outcome.step_written hhead]
      cases (Instruction.typed a).label? with
      | error fault => rfl
      | ok label => exact ih _

/-- Of two ways to one end, both or none are carried out to the end. -/
theorem Course.writable_of_ofInstructions_eq {is js : List Instruction}
    (h : ofInstructions notifier context is = ofInstructions notifier context js)
    (hwritable : ∀ i ∈ is, i.kindValue.isWritable = true) :
    (∀ j ∈ js, j.kindValue.isWritable = true) ∧
      Outcome.ofInstructions notifier context js = .ofInstructions notifier context is := by
  have hfinish : (ofInstructions notifier context is).finish =
      .ok (.ofInstructions notifier context is) := finish_eq_ok_iff.mpr ⟨hwritable, rfl⟩
  rw [h] at hfinish
  exact finish_eq_ok_iff.mp hfinish

end Outcome

/-! ### Guards -/

/-- **A guard that is written and pruned holds as what is read from it does.** -/
theorem Guard.holds_written {v : Value} {c : Option Condition} (h : Condition.ofValue? v = .ok c)
    (context : Value) :
    (Guard.written (Condition.prune v)).holds context = (Guard.typed c).holds context := by
  have hblank := Condition.isBlank_of_readTo? h
  rw [← Condition.isBlank_prune, Value.isBlank] at hblank
  rw [holds, hblank]
  cases c with
  | none => rfl
  | some c =>
      rw [← Condition.tree_of_readTo? h]
      rfl

/-! ### Rules -/

namespace Rule

/-- The fields of a rule, with a condition and actions that are written. -/
def fieldsWith (r : Rule) (condition actions : Value) : List (String × Value) := [
  ("id", r.id),
  ("name", r.name),
  ("rule_type", r.kind.toValue),
  ("trigger_event", r.trigger),
  ("conditions", condition),
  ("actions", actions),
  ("priority", r.priority),
  ("is_active", r.active),
  ("tenant_id", r.tenantId),
  ("description", r.description),
  ("created_at", .timestamp r.created),
  ("updated_at", .timestamp r.updated)]

/-- The rule with a condition and actions that are written. -/
def withWritten (r : Rule) (condition actions : Value) : Rule :=
  { r with guard := .written condition, actions := .inr actions }

/-- Such a rule is made of its fields. -/
theorem ofFields?_fieldsWith (now : Timestamp) {r : Rule} (hkind : .ofValue r.kind.toValue = r.kind)
    (condition actions : Value) :
    ofFields? now (r.fieldsWith condition actions) = .ok (r.withWritten condition actions) := by
  have hbound : signature.bind? [] (r.fieldsWith condition actions) =
      .ok ⟨r.fieldsWith condition actions⟩ := by
    refine Signature.bind?_named ?_ ?_ ?_
    · simp [fieldsWith, Signature.parameters, signature]
    · simp [fieldsWith]
    · simp [fieldsWith, signature]
  rw [ofFields?, hbound]
  simp [bind, Except.bind, pure, Except.pure, Bound.getD, Bound.get?, fieldsWith, withWritten,
    stampOr, hkind]

/-- Written actions are the items that actions are read from. -/
theorem givenItems?_of_actionsOf? {ruleId v : Value} {items : List Value}
    (h : actionsOf? ruleId v = .ok items) : v.givenItems? = .ok items := by
  rw [actionsOf?, Value.orElse] at h
  rw [Value.givenItems?]
  split
  · rw [if_pos ‹_›] at h
    split at h
    · obtain rfl := Except.ok.inj h
      rfl
    · cases h
  · rw [if_neg ‹_›] at h
    obtain rfl := Except.ok.inj h
    rfl

/-- Where the written guard holds as that of a rule and the written actions come to the end of its
actions, both rules have like results, or they have none. -/
theorem evaluate_of_agree {r : Rule} {condition actions : Value} {is js : List Instruction}
    {notifier : Option Notifier} {context : Value} (his : r.instructions? = .ok is)
    (hjs : (r.withWritten condition actions).instructions? = .ok js)
    (hguard : (Guard.written condition).holds context = r.guard.holds context)
    (hcourse : Course.ofInstructions notifier context js =
      Course.ofInstructions notifier context is) :
    (∃ result rawResult,
      r.evaluate notifier context = .ok result ∧
      (r.withWritten condition actions).evaluate notifier context = .ok rawResult ∧
      rawResult.ruleId = result.ruleId ∧ rawResult.matched = result.matched ∧
      rawResult.outcome = result.outcome) ∨
    (¬r.IsLabelled context ∧
      r.evaluate notifier context = .error .integerTooLong ∧
      (r.withWritten condition actions).evaluate notifier context = .error .integerTooLong) := by
  have hsame : (r.withWritten condition actions).applies context = r.applies context := by
    simp only [applies]
    rw [← hguard]
    rfl
  cases happlies : r.applies context with
  | false =>
      rw [happlies] at hsame
      exact .inl ⟨_, _, evaluate_eq_ok_iff.mpr (.inl ⟨happlies, rfl⟩),
        evaluate_eq_ok_iff.mpr (.inl ⟨hsame, rfl⟩), rfl, rfl, rfl⟩
  | true =>
      rw [happlies] at hsame
      by_cases hwritable : ∀ i ∈ is, i.kindValue.isWritable = true
      · obtain ⟨hwritten, houtcome⟩ := Course.writable_of_ofInstructions_eq hcourse.symm hwritable
        exact .inl ⟨_, _, evaluate_eq_ok_iff.mpr (.inr ⟨happlies, is, his, hwritable, rfl⟩),
          evaluate_eq_ok_iff.mpr (.inr ⟨hsame, js, hjs, hwritten, rfl⟩), rfl, rfl, houtcome⟩
      · have hlabelled := mt (isLabelled_iff happlies his).mp hwritable
        have hwritten : ¬∀ i ∈ js, i.kindValue.isWritable = true := fun hwritten =>
          hwritable (Course.writable_of_ofInstructions_eq hcourse hwritten).1
        exact .inr ⟨hlabelled, evaluate_of_not_isLabelled his hlabelled,
          evaluate_of_not_isLabelled hjs (mt (isLabelled_iff hsame hjs).mp hwritten)⟩

end Rule

/-- **A rule that was read evaluates as the rule made of what is written**, with the condition
pruned, in every context and for every notifier. Both have like results, but for a rule with a label
that cannot be written, where both have none. Where there is nothing to prune in a condition, it
evaluates alike as it was read and as it is written. -/
theorem evaluate_withWritten :
    (∀ now d r, Rule.ofValue? now d = .ok r →
      ∃ raw,
        Rule.ofFields? now (r.fieldsWith (Condition.prune (d.getD "conditions" .null))
          (d.getD "actions" .null)) = .ok raw ∧
        ∀ notifier context,
          (∃ result rawResult,
            r.evaluate notifier context = .ok result ∧
            raw.evaluate notifier context = .ok rawResult ∧
            rawResult.ruleId = result.ruleId ∧ rawResult.matched = result.matched ∧
            rawResult.outcome = result.outcome) ∨
          (¬r.IsLabelled context ∧
            r.evaluate notifier context = .error .integerTooLong ∧
            raw.evaluate notifier context = .error .integerTooLong)) ∧
    (∀ v c, Condition.ofValue? v = .ok c → Condition.isPruned v = true →
      ∀ context, Condition.evalOption context c = (Tree.ofValue v).eval context) := by
  refine ⟨?_, fun v c h hpruned context => Condition.eval_of_ofValue? h hpruned context⟩
  intro now d r h
  obtain ⟨entries, rfl, hentries⟩ := Rule.ofValue?_eq_ok_iff.mp h
  obtain ⟨-, -, items, created, updated, condition, actions, hitems, -, -, -, hcondition, hactions,
    rfl⟩ := Rule.ofEntries?_eq_ok_iff.mp hentries
  have hkind : RuleKind.ofValue
      (Rule.assembled entries created updated condition actions).kind.toValue =
        (Rule.assembled entries created updated condition actions).kind := by
    rw [Rule.assembled, RuleKind.toValue_ofValue]
  refine ⟨_, Rule.ofFields?_fieldsWith now hkind _ _, fun notifier context => ?_⟩
  have hwritten : (Rule.withWritten (Rule.assembled entries created updated condition actions)
      (Condition.prune (Rule.fieldOf entries "conditions"))
      (Rule.fieldOf entries "actions")).instructions? = .ok (items.map .written) := by
    rw [Rule.instructions?, Rule.withWritten]
    dsimp only
    rw [Rule.givenItems?_of_actionsOf? hitems]
    rfl
  exact Rule.evaluate_of_agree rfl hwritten (Guard.holds_written hcondition context)
    (Course.ofInstructions_written (mapM_eq_ok_iff.mp hactions))

/-- A condition with a blank child before the one that is negated. -/
def blankCondition : Value :=
  .mapping [("operator", .text "not"), ("conditions", .list [.null, totalCondition])]

/-- A definition of a rule with this condition. -/
def blankDefinition : Value :=
  .mapping [("id", .text "blank"), ("name", .text "Blank"), ("conditions", blankCondition),
    ("actions", .list [.mapping [("type", .text "notify"), ("message", .text "blank")]])]

/-- A rule with a blank child in its condition, and a condition without one. -/
theorem evaluate_withWritten_blank :
    Condition.isPruned blankCondition = false ∧
    (∃ r, Rule.ofValue? .epoch blankDefinition = .ok r ∧
      ∃ raw, Rule.ofFields? .epoch (r.fieldsWith (Condition.prune blankCondition)
        (blankDefinition.getD "actions" .null)) = .ok raw ∧
      ∃ result rawResult,
        r.evaluate (some .silent) orderContext = .ok result ∧
        raw.evaluate (some .silent) orderContext = .ok rawResult ∧
        rawResult.matched = result.matched ∧ rawResult.outcome = result.outcome) ∧
    Condition.isPruned totalCondition = true ∧
    ∃ c, Condition.ofValue? totalCondition = .ok c ∧
      Condition.evalOption orderContext c = (Tree.ofValue totalCondition).eval orderContext := by
  obtain ⟨hrules, hconditions⟩ := evaluate_withWritten
  refine ⟨by decide +kernel, ?_, by decide +kernel, ?_⟩
  · cases hread : Rule.ofValue? .epoch blankDefinition with
    | error failure =>
        have hok : (Rule.ofValue? .epoch blankDefinition).toBool = true := by decide +kernel
        rw [hread] at hok
        cases hok
    | ok r =>
        obtain ⟨raw, hraw, hevaluate⟩ := hrules .epoch blankDefinition r hread
        have hlabelled : (Rule.ofValue? .epoch blankDefinition).toOption.all
            (fun r => decide (r.IsLabelled orderContext)) = true := by
          decide +kernel
        rw [hread] at hlabelled
        obtain ⟨result, rawResult, hresult, hrawResult, -, hmatched, houtcome⟩ :=
          (hevaluate (some .silent) orderContext).resolve_right
            fun hnone => hnone.1 (of_decide_eq_true hlabelled)
        exact ⟨r, rfl, raw, hraw, result, rawResult, hresult, hrawResult, hmatched, houtcome⟩
  · have hpruned : Condition.isPruned totalCondition = true := by decide +kernel
    exact ⟨_, rfl, hconditions totalCondition _ rfl hpruned orderContext⟩

end Rulebook
