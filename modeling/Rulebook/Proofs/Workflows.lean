import Rulebook.Proofs.Totality

/-!
# Workflows That Are Triggered

Within one rule, triggered workflows are gathered: every action that triggers one adds it to a list,
which stands among the values of the outcome under a key of its own. Merging knows nothing of this
key. It writes the list of a later result over that of an earlier one, like any other value, so that
an evaluation names the workflows of one result: the last one that triggered any. All workflows are
named when only one matched result triggers any, and only then
(`Result.lastTriggered_eq_flatMap_iff`).

## Main definitions

* `Instruction.triggersOf`: the workflows that instructions trigger in a context.
* `Rule.SparesWorkflows`: no action of a rule writes over the workflows.
* `Result.lastTriggered`: the workflows of the last matched result that triggered any.

## Main results

* `Outcome.get?_workflowsKey`: an outcome gathers what its instructions trigger.
* `Merged.workflows?_ofResults`: merged results name the workflows of one of them.
* `evaluateContext_workflows`: so does an evaluation in a mapping.
-/

namespace Rulebook

/-! ### Gathering -/

namespace Instruction

/-- The workflow that an instruction triggers in a context, if it triggers one. -/
def trigger? (context : Value) (i : Instruction) : Option Value :=
  match i.effect context with
  | .ok (.trigger workflow) => some (.text workflow)
  | _ => none

/-- The workflows that some instructions trigger in a context, in order. -/
def triggersOf (context : Value) (is : List Instruction) : List Value :=
  is.filterMap (trigger? context)

/-- An instruction does not write under the key of the workflows in a context. -/
def SparesWorkflows (context : Value) (i : Instruction) : Prop :=
  ∀ w ∈ i.write? context, w.1.same Outcome.workflowsKey = false

instance (context : Value) (i : Instruction) : Decidable (i.SparesWorkflows context) :=
  inferInstanceAs (Decidable (∀ w ∈ i.write? context, w.1.same Outcome.workflowsKey = false))

end Instruction

namespace Outcome

variable {notifier : Option Notifier} {context : Value} {o : Outcome}

/-- What stands under the key of the workflows once some were triggered: their list, and nothing
when there are none. -/
def gathered (workflows : List Value) : Option Value :=
  if workflows.isEmpty then none else some (.list workflows)

theorem workflows_of_gathered {values : Ledger} {ws : List Value}
    (h : values.get? workflowsKey = gathered ws) : workflows values = ws := by
  rw [workflows, h, gathered]
  cases ws with
  | nil => rfl
  | cons w ws => rfl

/-- A step adds the workflow that its instruction triggers to those that were gathered. -/
theorem gathered_step (ho : Ledger.Keyed o.values.entries) {ws : List Value}
    (hws : o.values.get? workflowsKey = gathered ws) {i : Instruction}
    (hi : i.SparesWorkflows context) :
    (step notifier context o i).values.get? workflowsKey =
      gathered (ws ++ Instruction.triggersOf context [i]) := by
  rw [Instruction.SparesWorkflows, Instruction.write?] at hi
  rw [step, Instruction.triggersOf, List.filterMap_cons, Instruction.trigger?]
  cases heffect : i.effect context with
  | error failure => simp [fail, hws]
  | ok effect =>
      rw [heffect] at hi
      cases effect with
      | nothing => simp [apply, hws]
      | report message => simp [apply, hws]
      | notify message => simp [apply, values_notify, hws]
      | write key value =>
          have hother : key.same workflowsKey = false := hi (key, value) rfl
          have hkey : key.IsKey := Instruction.isKey_of_effect heffect
          simp [apply, Ledger.get?_set ho hkey, hother, hws]
      | trigger workflow =>
          have hbefore : workflows o.values = ws := workflows_of_gathered hws
          simp [apply, Ledger.get?_set ho isKey_workflowsKey, same_workflowsKey, hbefore, gathered]

/-- Steps add the workflows that their instructions trigger. -/
theorem gathered_foldl (ho : o.values.WellFormed) {ws : List Value}
    (hws : o.values.get? workflowsKey = gathered ws) {is : List Instruction}
    (his : ∀ i ∈ is, i.SparesWorkflows context) :
    (is.foldl (step notifier context) o).values.get? workflowsKey =
      gathered (ws ++ Instruction.triggersOf context is) := by
  induction is generalizing o ws with
  | nil =>
      rw [Instruction.triggersOf, List.filterMap_nil, List.append_nil]
      exact hws
  | cons i rest ih =>
      obtain ⟨hi, hrest⟩ := List.forall_mem_cons.mp his
      have hsplit : Instruction.triggersOf context (i :: rest) =
          Instruction.triggersOf context [i] ++ Instruction.triggersOf context rest :=
        List.filterMap_append (l := [i])
      rw [List.foldl_cons, ih (wellFormed_step ho i) (gathered_step ho.keyed hws hi) hrest, hsplit,
        List.append_assoc]

/-- **An outcome gathers the workflows that its instructions trigger**, in their order, unless one
of them writes over the list. -/
theorem get?_workflowsKey (notifier : Option Notifier) {is : List Instruction}
    (his : ∀ i ∈ is, i.SparesWorkflows context) :
    (ofInstructions notifier context is).values.get? workflowsKey =
      gathered (Instruction.triggersOf context is) := by
  have hnone : empty.values.get? workflowsKey = gathered [] := rfl
  exact gathered_foldl Ledger.wellFormed_empty hnone his

end Outcome

/-! ### Merging -/

namespace Result

/-- The workflows that a result triggered. -/
def workflows (r : Result) : List Value := Outcome.workflows r.outcome.values

/-- The lists of workflows that matched results triggered, without those that triggered none. -/
def triggering (results : List Result) : List (List Value) :=
  ((results.filter (·.matched)).map workflows).filter fun ws => !ws.isEmpty

/-- The workflows of the last matched result that triggered any. -/
def lastTriggered (results : List Result) : List Value := (triggering results).getLast?.getD []

/-- The result gathered its workflows. -/
def Gathers (r : Result) : Prop :=
  r.held? Outcome.workflowsKey = Outcome.gathered r.workflows

/-- The workflows that were triggered are those of the results that triggered any. -/
theorem flatten_triggering (results : List Result) :
    (triggering results).flatten = (results.filter (·.matched)).flatMap workflows := by
  rw [triggering, List.flatten_filter_not_isEmpty, List.flatMap_def]

theorem ne_nil_of_mem_triggering {results : List Result} {ws : List Value}
    (h : ws ∈ triggering results) : ws ≠ [] := by
  have hnonempty := (List.mem_filter.mp h).2
  intro hnil
  rw [hnil] at hnonempty
  cases hnonempty

/-- **The last result that triggered workflows stands for all** exactly when it is the only one. -/
theorem lastTriggered_eq_flatMap_iff (results : List Result) :
    lastTriggered results = (results.filter (·.matched)).flatMap workflows ↔
      (triggering results).length ≤ 1 := by
  rw [← flatten_triggering, lastTriggered]
  have hnonempty : ∀ ws ∈ triggering results, ws ≠ [] := fun _ => ne_nil_of_mem_triggering
  rcases List.eq_nil_or_concat' (triggering results) with hnone | ⟨before, last, hlast⟩
  · simp [hnone]
  · rw [hlast] at hnonempty ⊢
    rw [List.getLast?_concat, Option.getD_some, List.flatten_append,
      List.flatten_singleton, List.length_append,
      List.length_singleton]
    constructor
    · -- What stands before the last list adds nothing to it, and no list is empty.
      intro h
      have hempty := List.flatten_eq_nil_iff.mp (List.self_eq_append_left.mp h)
      have hbefore : before = [] := by
        refine List.eq_nil_iff_forall_not_mem.mpr fun ws hws => ?_
        exact hnonempty ws (List.mem_append_left _ hws) (hempty ws hws)
      rw [hbefore]
      rfl
    · intro h
      have hbefore : before = [] := List.length_eq_zero_iff.mp (by omega)
      rw [hbefore]
      rfl

end Result

/-- **Merged results name the workflows of one of them**, the last that triggered any. -/
theorem Merged.workflows?_ofResults {results : List Result}
    (hformed : ∀ r ∈ results, r.outcome.values.WellFormed)
    (hgathers : ∀ r ∈ results, r.Gathers) :
    (ofResults results).workflows? = .ok (Result.lastTriggered results) := by
  have hheld : (results.filter (·.matched)).filterMap (Result.held? Outcome.workflowsKey) =
      (Result.triggering results).map .list := by
    have hall : ∀ r ∈ results.filter (·.matched), r.Gathers :=
      fun r hr => hgathers r (List.mem_filter.mp hr).1
    rw [Result.triggering]
    generalize results.filter (·.matched) = matched at hall
    induction matched with
    | nil => rfl
    | cons r rest ih =>
        obtain ⟨hr, hrest⟩ := List.forall_mem_cons.mp hall
        rw [Result.Gathers, Outcome.gathered] at hr
        rw [List.map_cons, List.filterMap_cons, List.filter_cons, hr, ih hrest]
        cases r.workflows with
        | nil => rfl
        | cons w ws => rfl
  rw [workflows?, get?_ofResults hformed, hheld, List.getLast?_map, Result.lastTriggered]
  cases (Result.triggering results).getLast? with
  | none => rfl
  | some ws => rfl

/-! ### Evaluations -/

namespace Rule

/-- No action of a rule writes over the workflows in a context. -/
def SparesWorkflows (context : Value) (r : Rule) : Prop :=
  ∀ i ∈ r.instructions?.toOption.getD [], i.SparesWorkflows context

instance (context : Value) (r : Rule) : Decidable (r.SparesWorkflows context) :=
  inferInstanceAs (Decidable (∀ i ∈ r.instructions?.toOption.getD [], i.SparesWorkflows context))

/-- The result of a rule that spares the workflows gathers those that its actions trigger. -/
theorem SparesWorkflows.workflows_of_evaluate {notifier : Option Notifier} {context : Value}
    {r : Rule} (h : r.SparesWorkflows context) {result : Result}
    (hresult : r.evaluate notifier context = .ok result) :
    result.Gathers ∧ result.workflows = Instruction.triggersOf context result.actions := by
  have hspares : ∀ i ∈ result.actions, i.SparesWorkflows context := by
    rcases evaluate_eq_ok_iff.mp hresult with ⟨-, rfl⟩ | ⟨-, is, his, -, rfl⟩
    · intro i hi
      cases hi
    · rw [SparesWorkflows, his] at h
      exact h
  have hgathered := Outcome.get?_workflowsKey notifier hspares
  rw [← (isCarriedOut_of_evaluate hresult).outcome] at hgathered
  have hworkflows : result.workflows = Instruction.triggersOf context result.actions :=
    Outcome.workflows_of_gathered hgathered
  refine ⟨?_, hworkflows⟩
  rw [Result.Gathers, hworkflows]
  exact hgathered

end Rule

/-- The results of rules that spare the workflows gather what their actions trigger, and merged they
name the workflows of the last of them that triggered any. -/
theorem Merged.workflows?_of_spares {notifier : Option Notifier} {context : Value}
    {rules : List Rule} (hspares : ∀ r ∈ rules, r.SparesWorkflows context) {results : List Result}
    (hresults : List.Forall₂ (fun r result => Rule.evaluate notifier context r = .ok result)
      rules results) :
    (∀ r ∈ results, r.workflows = Instruction.triggersOf context r.actions) ∧
      (ofResults results).workflows? = .ok (Result.lastTriggered results) := by
  have hgathers : ∀ result ∈ results, result.Gathers ∧
      result.workflows = Instruction.triggersOf context result.actions := by
    intro result hresult
    obtain ⟨r, hr, hevaluate⟩ := exists_of_mem_forall₂ hresults hresult
    exact (hspares r hr).workflows_of_evaluate hevaluate
  have hformed : ∀ result ∈ results, result.outcome.values.WellFormed :=
    fun result hresult => (Rule.isCarriedOut_of_forall₂ hresults result hresult).wellFormed
  exact ⟨fun result hresult => (hgathers result hresult).2,
    workflows?_ofResults hformed fun result hresult => (hgathers result hresult).1⟩

/-- **An evaluation in a mapping names the workflows of one result**, for rules that were read and
whose actions do not write over the workflows. Each result, of the rules registered for the event
and in the order of evaluation, gathers what its actions trigger, in their order. The evaluation
names the workflows of the last matched result that triggered any; these are all workflows exactly
when no other matched result triggered any. Only where a rule is not labelled there may be no
evaluation. -/
theorem evaluateContext_workflows (engine : Engine) (elapsed : Binary64) {rules : List Rule}
    (h : ∀ r ∈ rules, r.IsRead) (entries : List (String × Value))
    (hspares : ∀ r ∈ rules, r.SparesWorkflows (.mapping entries)) (event : Value) (stop : Bool) :
    let answer := engine.evaluateContext elapsed (rules.map .rule) (.mapping entries) event stop
    (∃ e, answer.outcome = .ok e ∧
      (∀ ordered, Rule.InOrder (Rule.registeredFor event rules) ordered →
        List.Forall₂
          (fun r result => r.1.evaluate engine.notifier (.mapping entries) = .ok result)
          (ordered.take e.results.length) e.results) ∧
      (∀ r ∈ e.results, r.workflows = Instruction.triggersOf (.mapping entries) r.actions) ∧
      e.merged.workflows? = .ok (Result.lastTriggered e.results) ∧
      (e.merged.workflows? = .ok ((e.results.filter (·.matched)).flatMap (·.workflows)) ↔
        (Result.triggering e.results).length ≤ 1)) ∨
    ((∃ r ∈ rules, ¬r.IsLabelled (.mapping entries)) ∧
      answer.outcome = .error .integerTooLong) := by
  obtain ⟨results, hresults, hanswer | ⟨r, hr, hnot, hanswer⟩⟩ :=
    engine.evaluateContext_rules elapsed h entries event stop
  · have hselected : ∀ r ∈ (Rule.arranged (Rule.registeredFor event rules)).take results.length,
        r.SparesWorkflows (.mapping entries) := fun r hr =>
      hspares r (Rule.mem_of_mem_registeredFor (List.mem_mergeSort.mp (List.mem_of_mem_take hr)))
    obtain ⟨htriggers, hmerged⟩ := Merged.workflows?_of_spares hselected hresults
    refine .inl ⟨.ofResults results, by rw [hanswer], ?_, htriggers, hmerged, ?_⟩
    · intro ordered hordered
      rw [← hordered.map_fst, ← List.map_take] at hresults
      exact List.forall₂_map_left_iff.mp hresults
    · rw [← Result.lastTriggered_eq_flatMap_iff]
      constructor
      · intro hall
        exact Except.ok.inj (hmerged.symm.trans hall)
      · intro hall
        exact hmerged.trans (congrArg Except.ok hall)
  · have hmem := Rule.mem_of_getElem?_registeredFor hr
    exact .inr ⟨⟨r, hmem, hnot⟩, by rw [hanswer]⟩

/-- The workflows of two tied rules, of which the one or the other is named. -/
theorem evaluateContext_workflows_tied :
    (∀ r ∈ readable .epoch tiedDefinitions, r.IsRead) ∧
    (∀ r ∈ readable .epoch tiedDefinitions, r.SparesWorkflows orderContext) ∧
    (∀ r ∈ readable .epoch tiedDefinitions, r.IsLabelled orderContext) ∧
    ∀ stop, ∃ e,
      ((⟨none, none⟩ : Engine).evaluateContext .one ((readable .epoch tiedDefinitions).map .rule)
        orderContext .null stop).outcome = .ok e ∧
      e.merged.workflows? = .ok (Result.lastTriggered e.results) := by
  have hread : ∀ r ∈ readable .epoch tiedDefinitions, r.IsRead :=
    fun _ hr => Rule.isRead_of_mem_readable hr
  have hspares : ∀ r ∈ readable .epoch tiedDefinitions, r.SparesWorkflows orderContext := by
    decide +kernel
  have hlabelled : ∀ r ∈ readable .epoch tiedDefinitions, r.IsLabelled orderContext := by
    decide +kernel
  refine ⟨hread, hspares, hlabelled, fun stop => ?_⟩
  obtain ⟨e, houtcome, -, -, hmerged, -⟩ | ⟨⟨r, hr, hnot⟩, -⟩ :=
    evaluateContext_workflows ⟨none, none⟩ .one hread _ hspares .null stop
  · exact ⟨e, houtcome, hmerged⟩
  · exact absurd (hlabelled r hr) hnot

/-- A definition of a rule that always matches and triggers a workflow of its own name. -/
def workflowDefinition (id : String) : Value :=
  .mapping [
    ("id", .text id), ("name", .text "Step"),
    ("actions", .list [.mapping [("type", .text "trigger_workflow"), ("value", .text id)]])]

/-- Definitions of two rules that each trigger a workflow. -/
def handoverDefinitions : List Value := [workflowDefinition "pack", workflowDefinition "ship"]

/-- The workflow of the one rule is lost when the other one triggers a workflow, too. -/
theorem evaluateContext_loses_workflows :
    (∀ r ∈ readable .epoch handoverDefinitions, r.IsRead) ∧
    (∀ r ∈ readable .epoch handoverDefinitions, r.SparesWorkflows (.mapping [])) ∧
    ∃ e,
      ((⟨none, none⟩ : Engine).evaluateContext .one
        ((readable .epoch handoverDefinitions).map .rule) (.mapping []) .null false).outcome =
          .ok e ∧
      e.merged.workflows? ≠ .ok ((e.results.filter (·.matched)).flatMap (·.workflows)) := by
  have hread : ∀ r ∈ readable .epoch handoverDefinitions, r.IsRead :=
    fun _ hr => Rule.isRead_of_mem_readable hr
  have hspares : ∀ r ∈ readable .epoch handoverDefinitions, r.SparesWorkflows (.mapping []) := by
    decide +kernel
  have hlabelled : ∀ r ∈ readable .epoch handoverDefinitions, r.IsLabelled (.mapping []) := by
    decide +kernel
  obtain ⟨results, hrun, hresults⟩ := evaluateAll_full none hread hlabelled
  obtain ⟨-, hmerged⟩ := Merged.workflows?_of_spares
    (fun r hr => hspares r (List.mem_mergeSort.mp hr)) hresults
  have hselected : Rule.registeredFor .null (readable .epoch handoverDefinitions) =
      readable .epoch handoverDefinitions := if_neg (by decide)
  refine ⟨hread, hspares, .ofResults results, ?_, fun hall => ?_⟩
  · rw [Engine.evaluateContext_eq, hselected, hrun]
    rfl
  -- Both rules match and trigger a workflow, in whatever order they are evaluated.
  have heach : ∀ r ∈ readable .epoch handoverDefinitions,
      (r.evaluate none (.mapping [])).toOption.any
        (fun result => result.matched && !result.workflows.isEmpty) = true := by
    decide +kernel
  have htriggers : ∀ result ∈ results,
      result.matched = true ∧ result.workflows.isEmpty = false := by
    intro result hresult
    obtain ⟨r, hr, hevaluate⟩ := exists_of_mem_forall₂ hresults hresult
    have hmatched := heach r (List.mem_mergeSort.mp hr)
    rw [hevaluate] at hmatched
    simpa [Except.toOption] using hmatched
  have htriggering : Result.triggering results = results.map (·.workflows) := by
    rw [Result.triggering, List.filter_eq_self.mpr fun r hr => (htriggers r hr).1,
      List.filter_eq_self]
    intro ws hws
    obtain ⟨r, hr, rfl⟩ := List.mem_map.mp hws
    rw [(htriggers r hr).2]
    rfl
  have hlength : results.length = 2 := by
    rw [← hresults.length_eq, Rule.arranged, List.length_mergeSort]
    decide +kernel
  have hone := (Result.lastTriggered_eq_flatMap_iff results).mp
    (Except.ok.inj (hmerged.symm.trans hall))
  rw [htriggering, List.length_map, hlength] at hone
  omega

end Rulebook
