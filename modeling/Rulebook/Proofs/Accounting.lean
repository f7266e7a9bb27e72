import Rulebook.Engine.Call
import Rulebook.Proofs.Counting
import Rulebook.Proofs.Totality

/-!
# Every Evaluation Is Accounted For

An engine counts the evaluations of rule sets that it answers, and nothing else that it is asked
for. This module shows that its counters can be computed from its answers: what a call adds to the
counters are the counts of the evaluation that it gives, and after any calls the counters are the
counts of the evaluations that were given, one after the other. What the single counters stand at
follows from there. A call whose evaluation breaks off gives none and counts for nothing, which
happens only with rules that are not labelled.

## Main definitions

* `Engine.Call.IsRegular`: a call for rules that were read, in a context that is a mapping.
* `Engine.Call.isRecorded`: a call for the evaluation of a rule set whose arguments are accepted.
* `Engine.Call.IsLabelled`: the rules whose evaluation is asked for are labelled.
* `Engine.isAnswered`: a call for the evaluation of a rule set that came to one.

## Main results

* `Engine.performAll_counters`: the counters after any calls.
* `Engine.performAll_accounts`: the counters of outcomes, of matched rules and of failed actions.
-/

namespace Rulebook

namespace Engine

/-! ### Calls -/

namespace Call

/-- Are these rules that were read? -/
def AreRead (cs : List Candidate) : Prop := ∃ rules : List Rule, (∀ r ∈ rules, r.IsRead) ∧
  cs = rules.map .rule

/-- A call is **regular** when the rules that it brings were read and a context that it brings is a
mapping. -/
def IsRegular : Call → Prop
  | evaluate rules _ _ _ => AreRead rules
  | evaluateContext rules context _ _ => AreRead rules ∧ ∃ entries, context = .mapping entries
  | calculateOrder rules _ _ => AreRead rules
  | evaluateRules rules context _ => AreRead rules ∧ ∃ entries, context = .mapping entries
  | evaluateRule rule context => AreRead [rule] ∧ ∃ entries, context = .mapping entries
  | evaluateSingle rule _ => AreRead [rule]
  | loadRules _ _ => True

/-- Is this a call for the evaluation of a rule set? One that adds to the context under a name that
is taken is not accepted as one. -/
def isRecorded : Call → Bool
  | evaluate _ subject _ _ => (Context.checkAdded evaluateParameters subject.added).toOption.isSome
  | evaluateContext .. | calculateOrder .. => true
  | _ => false

/-- The rules of a rule set whose evaluation is asked for are labelled in the context of the
evaluation. -/
def IsLabelled : Call → Prop
  | evaluate rules subject _ _ => ∀ r, .rule r ∈ rules → r.IsLabelled subject.context
  | evaluateContext rules context _ _ => ∀ r, .rule r ∈ rules → r.IsLabelled context
  | calculateOrder rules order tenantConfig => ∀ r, .rule r ∈ rules →
      r.IsLabelled (Subject.context ⟨order, .text "order", tenantConfig, []⟩)
  | _ => True

end Call

/-- Did a call for the evaluation of a rule set come to one? -/
def isAnswered (z : (Binary64 × Call) × Except Fault Yield) : Bool :=
  z.1.2.isRecorded && z.2.toOption.isSome

/-! ### One call -/

/-- The evaluation of a rule set for a subject is that in its context, once what is added to the
context is accepted. -/
theorem evaluate_of_checkAdded (engine : Engine) (elapsed : Binary64) (rules : List Candidate)
    (subject : Subject) (event : Value) (stop : Bool)
    (h : Context.checkAdded evaluateParameters subject.added = .ok ()) :
    engine.evaluate elapsed rules subject event stop =
      engine.evaluateContext elapsed rules subject.context event stop := by
  rw [evaluate, h]

/-- The context that a subject is evaluated in is a mapping. -/
theorem Subject.exists_context (subject : Subject) :
    ∃ entries, subject.context = .mapping entries :=
  ⟨_, rfl⟩

/-- The evaluation of rules that were read, in a mapping, gives an evaluation and records it, or
breaks off for a rule that is not labelled and changes nothing. -/
theorem evaluateContext_cases (engine : Engine) (elapsed : Binary64) {rules : List Candidate}
    (h : Call.AreRead rules) {context : Value} (hcontext : ∃ entries, context = .mapping entries)
    (event : Value) (stop : Bool) :
    (∃ e, (engine.evaluateContext elapsed rules context event stop).outcome = .ok e ∧
      (engine.evaluateContext elapsed rules context event stop).engine =
        engine.record elapsed e) ∨
    ((¬∀ r, .rule r ∈ rules → r.IsLabelled context) ∧
      (engine.evaluateContext elapsed rules context event stop).outcome =
        .error .integerTooLong ∧
      (engine.evaluateContext elapsed rules context event stop).engine = engine) := by
  obtain ⟨rules, hread, rfl⟩ := h
  obtain ⟨entries, rfl⟩ := hcontext
  obtain ⟨results, -, hanswer | ⟨r, hr, hnot, hanswer⟩⟩ :=
    engine.evaluateContext_rules elapsed hread entries event stop
  · rw [hanswer]
    exact .inl ⟨_, rfl, rfl⟩
  · have hmem := Rule.mem_of_getElem?_registeredFor hr
    rw [hanswer]
    exact .inr ⟨fun hall => hnot (hall r (List.mem_map_of_mem hmem)), rfl, rfl⟩

/-- **A call that is not recorded changes nothing**, and gives no evaluation of a rule set. -/
theorem perform_of_not_isRecorded (engine : Engine) (elapsed : Binary64) {call : Call}
    (h : call.isRecorded = false) :
    (engine.perform elapsed call).engine = engine ∧
      evaluations [(engine.perform elapsed call).outcome] = [] := by
  cases call with
  | evaluate rules subject event stop =>
      cases hadded : Context.checkAdded evaluateParameters subject.added with
      | ok =>
          rw [Call.isRecorded, hadded] at h
          cases h
      | error fault =>
          simp only [perform, evaluate, hadded]
          exact ⟨rfl, rfl⟩
  | evaluateContext => cases h
  | calculateOrder => cases h
  | evaluateRules rules context stop =>
      refine ⟨rfl, ?_⟩
      simp only [perform, evaluateRules]
      cases (evaluateAll stop engine.notifier context rules).finish with
      | error fault => rfl
      | ok results => rfl
  | evaluateRule rule context =>
      refine ⟨rfl, ?_⟩
      simp only [perform, evaluateRule]
      cases rule.evaluate engine.notifier context with
      | error fault => rfl
      | ok result => rfl
  | evaluateSingle rule subject =>
      simp only [perform, evaluateSingle, evaluateRule]
      cases Context.checkAdded evaluateSingleParameters subject.added with
      | error fault => exact ⟨rfl, rfl⟩
      | ok =>
          cases rule.evaluate engine.notifier subject.context with
          | error fault => exact ⟨rfl, rfl⟩
          | ok result => exact ⟨rfl, rfl⟩
  | loadRules now config =>
      refine ⟨rfl, ?_⟩
      simp only [perform]
      cases loadRules? now config with
      | error fault => rfl
      | ok rules => rfl

/-- **A regular call that is recorded gives one evaluation**, and records it, or breaks off for a
rule that is not labelled, and changes nothing. -/
theorem perform_of_isRecorded (engine : Engine) (elapsed : Binary64) {call : Call}
    (hregular : call.IsRegular) (h : call.isRecorded = true) :
    (∃ e, (engine.perform elapsed call).engine = engine.record elapsed e ∧
      evaluations [(engine.perform elapsed call).outcome] = [e] ∧
      (engine.perform elapsed call).outcome.toOption.isSome = true) ∨
    (¬call.IsLabelled ∧ (engine.perform elapsed call).engine = engine ∧
      evaluations [(engine.perform elapsed call).outcome] = [] ∧
      (engine.perform elapsed call).outcome.toOption.isSome = false) := by
  cases call with
  | evaluate rules subject event stop =>
      cases hadded : Context.checkAdded evaluateParameters subject.added with
      | error fault =>
          rw [Call.isRecorded, hadded] at h
          cases h
      | ok =>
          simp only [perform, evaluate_of_checkAdded _ _ _ _ _ _ hadded]
          rcases engine.evaluateContext_cases elapsed hregular subject.exists_context event stop with
            ⟨e, houtcome, hengine⟩ | ⟨hnot, houtcome, hengine⟩
          · rw [houtcome, hengine]
            exact .inl ⟨e, rfl, rfl, rfl⟩
          · rw [houtcome, hengine]
            exact .inr ⟨hnot, rfl, rfl, rfl⟩
  | evaluateContext rules context event stop =>
      simp only [perform]
      rcases engine.evaluateContext_cases elapsed hregular.1 hregular.2 event stop with
        ⟨e, houtcome, hengine⟩ | ⟨hnot, houtcome, hengine⟩
      · rw [houtcome, hengine]
        exact .inl ⟨e, rfl, rfl, rfl⟩
      · rw [houtcome, hengine]
        exact .inr ⟨hnot, rfl, rfl, rfl⟩
  | calculateOrder rules order tenantConfig =>
      have hanswer := engine.evaluate_of_checkAdded elapsed rules
        ⟨order, .text "order", tenantConfig, []⟩ orderEvent false rfl
      simp only [perform, calculateOrder, hanswer]
      rcases engine.evaluateContext_cases elapsed hregular
        (Subject.exists_context ⟨order, .text "order", tenantConfig, []⟩) orderEvent false with
        ⟨e, houtcome, hengine⟩ | ⟨hnot, houtcome, hengine⟩
      · rw [houtcome, hengine]
        exact .inl ⟨e, rfl, rfl, rfl⟩
      · rw [houtcome, hengine]
        exact .inr ⟨hnot, rfl, rfl, rfl⟩
  | evaluateRules => cases h
  | evaluateRule => cases h
  | evaluateSingle => cases h
  | loadRules => cases h

/-! ### Calls one after the other -/

theorem evaluations_cons (outcome : Except Fault Yield) (outcomes : List (Except Fault Yield)) :
    evaluations (outcome :: outcomes) = evaluations [outcome] ++ evaluations outcomes :=
  List.filterMap_append (l := [outcome])

/-- **The counters after any calls** are those before, and then the counts of the evaluations that
the calls gave; there is one for each call that is answered. -/
theorem performAll_counters (engine : Engine) {log : MetricsLog} (hlog : engine.metrics = some log)
    (hkeeps : log.keepsRules = true) {calls : List (Binary64 × Call)}
    (h : ∀ c ∈ calls, c.2.IsRegular) :
    ∃ last, (engine.performAll calls).1 = { engine with metrics := some last } ∧
      last.counters =
        log.counters ++ (evaluations (engine.performAll calls).2).flatMap Evaluation.counts ∧
      (evaluations (engine.performAll calls).2).length =
        (calls.zip (engine.performAll calls).2).countP isAnswered ∧
      ((∀ c ∈ calls, c.2.IsLabelled) →
        (evaluations (engine.performAll calls).2).length = calls.countP (·.2.isRecorded)) := by
  induction calls generalizing engine log with
  | nil => exact ⟨log, by rw [performAll, ← hlog], (List.append_nil _).symm, rfl, fun _ => rfl⟩
  | cons c rest ih =>
      obtain ⟨elapsed, call⟩ := c
      obtain ⟨hregular, hrest⟩ := List.forall_mem_cons.mp h
      rw [performAll]
      simp only
      rw [evaluations_cons, List.zip_cons_cons, List.countP_cons, List.countP_cons, isAnswered]
      cases hrecorded : call.isRecorded with
      | false =>
          obtain ⟨hengine, hnone⟩ := engine.perform_of_not_isRecorded elapsed hrecorded
          obtain ⟨last, hlast, hcounters, hlength, hall⟩ := ih engine hlog hkeeps hrest
          rw [hengine, hnone]
          exact ⟨last, hlast, hcounters, hlength,
            fun hlabelled => hall (List.forall_mem_cons.mp hlabelled).2⟩
      | true =>
          rcases engine.perform_of_isRecorded elapsed hregular hrecorded with
            ⟨e, hengine, hone, hsome⟩ | ⟨hnot, hengine, hnone, hfailed⟩
          · have hnext : (engine.record elapsed e).metrics =
                some (log.recordEvaluation e elapsed) := by
              rw [record, hlog]
              rfl
            have hnextKeeps : (log.recordEvaluation e elapsed).keepsRules = true := by
              rw [MetricsLog.keepsRules, MetricsLog.service_recordEvaluation]
              exact hkeeps
            obtain ⟨last, hlast, hcounters, hlength, hall⟩ := ih _ hnext hnextKeeps hrest
            rw [hengine, hone, hsome]
            refine ⟨last, hlast, ?_, ?_, fun hlabelled => ?_⟩
            · rw [hcounters, MetricsLog.counters_recordEvaluation log e elapsed hkeeps,
                List.append_assoc]
              rfl
            · rw [List.singleton_append, List.length_cons, hlength]
              rfl
            · rw [List.singleton_append, List.length_cons,
                hall (List.forall_mem_cons.mp hlabelled).2]
              rfl
          · obtain ⟨last, hlast, hcounters, hlength, -⟩ := ih engine hlog hkeeps hrest
            rw [hengine, hnone, hfailed]
            refine ⟨last, hlast, hcounters, hlength, fun hlabelled => ?_⟩
            exact absurd (List.forall_mem_cons.mp hlabelled).1 hnot

end Engine

/-! ### The single counters -/

namespace MetricsLog

theorem amountsOf_flatMap {α : Type} (metric : Metric) (labels : List String)
    (share : α → List MetricEntry) (items : List α) :
    amountsOf metric labels (items.flatMap share) =
      items.flatMap fun a => amountsOf metric labels (share a) := by
  rw [amountsOf, List.filter_flatMap, List.map_flatMap]
  rfl

/-- Entries of another metric add nothing to a metric. -/
theorem amountsOf_eq_nil {metric : Metric} {labels : List String} {entries : List MetricEntry}
    (h : ∀ e ∈ entries, e.metric ≠ metric) : amountsOf metric labels entries = [] := by
  rw [amountsOf, List.filter_eq_nil_iff.mpr]
  · rfl
  · intro e he
    simp [h e he]

theorem amountsOf_singleton (metric : Metric) (labels : List String) (amount : Binary64) :
    amountsOf metric labels [⟨metric, labels, amount⟩] = [amount] := by
  simp [amountsOf]

/-- Counting one for each of some texts adds as many ones under a text as it is among them. -/
theorem amountsOf_map_one (metric : Metric) (texts : List String) (t : String) :
    amountsOf metric [t] (texts.map fun text => ⟨metric, [text], .one⟩) =
      List.replicate (texts.count t) .one := by
  induction texts with
  | nil => rfl
  | cons text texts ih =>
      rw [List.map_cons, List.count_cons, amountsOf, List.filter_cons]
      by_cases htext : text = t
      · simp only [htext, decide_true, and_self, if_true, List.map_cons, beq_self_eq_true,
          List.replicate_succ]
        rw [← ih]
        rfl
      · simp only [htext, List.cons.injEq, and_true, and_false, decide_false, Bool.false_eq_true,
          if_false, beq_iff_eq, Nat.add_zero]
        exact ih

/-- The metric of what a number of matched rules adds. -/
theorem metric_of_mem_matchedCounts {n : ℕ} {e : MetricEntry} (h : e ∈ matchedCounts n) :
    e.metric = .rulesMatched := by
  rw [matchedCounts] at h
  split at h
  · cases h
  · obtain ⟨x, -, rfl⟩ := Option.map_eq_some_iff.mp (Option.mem_toList.mp h)
    rfl

/-- Where a metric counts texts, other metrics add nothing to it. -/
theorem amountsOf_map_one_of_ne {metric other : Metric} (h : other ≠ metric) (labels : List String)
    (texts : List String) :
    amountsOf metric labels (texts.map fun text => ⟨other, [text], .one⟩) = [] := by
  refine amountsOf_eq_nil fun e he => ?_
  obtain ⟨text, -, rfl⟩ := List.mem_map.mp he
  exact h

theorem amountsOf_matchedCounts_of_ne {metric : Metric} (h : .rulesMatched ≠ metric)
    (labels : List String) (n : ℕ) : amountsOf metric labels (matchedCounts n) = [] :=
  amountsOf_eq_nil fun e he => by rwa [metric_of_mem_matchedCounts he]

section Counts

variable (e : Evaluation)

/-- The counts of an evaluation, part by part. -/
theorem amountsOf_counts (metric : Metric) (labels : List String) :
    amountsOf metric labels e.counts =
      amountsOf metric labels
        ([outcomeText e.merged.isValid].map fun text => ⟨.ruleEvaluations, [text], .one⟩) ++
      (amountsOf metric labels (matchedCounts e.merged.matched) ++
        amountsOf metric labels (e.failures.map fun text => ⟨.actionFailures, [text], .one⟩)) := by
  rw [← amountsOf_append, ← amountsOf_append]
  rfl

/-- An evaluation counts one under its outcome. -/
theorem amountsOf_ruleEvaluations (t : String) :
    amountsOf .ruleEvaluations [t] e.counts =
      List.replicate ([outcomeText e.merged.isValid].count t) .one := by
  rw [amountsOf_counts, amountsOf_map_one, amountsOf_matchedCounts_of_ne (by decide),
    amountsOf_map_one_of_ne (by decide), List.append_nil, List.append_nil]

/-- An evaluation counts one for each action that failed. -/
theorem amountsOf_actionFailures (t : String) :
    amountsOf .actionFailures [t] e.counts = List.replicate (e.failures.count t) .one := by
  rw [amountsOf_counts, amountsOf_map_one, amountsOf_matchedCounts_of_ne (by decide),
    amountsOf_map_one_of_ne (by decide), List.nil_append, List.nil_append]

/-- An evaluation counts the rules that matched. -/
theorem amountsOf_rulesMatched (h : e.merged.matched ≤ Binary64.exactBound) :
    amountsOf .rulesMatched [] e.counts =
      (if e.merged.matched = 0 then [] else [e.merged.matched]).map .ofNat := by
  rw [amountsOf_counts, amountsOf_map_one_of_ne (by decide), amountsOf_map_one_of_ne (by decide),
    List.nil_append, List.append_nil, matchedCounts, Binary64.ofInt?_of_le h]
  split
  · rfl
  · exact amountsOf_singleton _ _ _

end Counts

/-! ### What the counters stand at -/

section Standing

variable {log : MetricsLog} {es : List Evaluation}
  (h : log.counters = es.flatMap Evaluation.counts)

include h

/-- A counter to which every evaluation adds whole numbers stands at the sum of these. -/
theorem countsTo_of_shares {metric : Metric} (hcounter : metric.isHistogram = false)
    {labels : List String} {share : Evaluation → List ℕ}
    (hshare : ∀ e ∈ es, amountsOf metric labels e.counts = (share e).map .ofNat) :
    log.CountsTo metric labels (es.map fun e => (share e).sum).sum := by
  have hamounts : log.amounts metric labels = ((es.map share).flatten).map .ofNat := by
    rw [amounts_eq_counters log hcounter, h, amountsOf_flatMap, ← List.flatMap_def,
      List.map_flatMap]
    exact List.flatMap_congr hshare
  have hsum : (es.map share).flatten.sum = (es.map fun e => (share e).sum).sum := by
    rw [List.sum_flatten, List.map_map]
    rfl
  rw [← hsum]
  exact countsTo_of_amounts hamounts

/-- A counter to which every evaluation adds one for each of some texts stands at how often a text
is among them. -/
theorem countsTo_of_ones {metric : Metric} (hcounter : metric.isHistogram = false)
    {texts : Evaluation → List String} {t : String}
    (hones : ∀ e, amountsOf metric [t] e.counts = List.replicate ((texts e).count t) .one) :
    log.CountsTo metric [t] ((es.flatMap texts).count t) := by
  have hshare : ∀ e ∈ es, amountsOf metric [t] e.counts =
      (List.replicate ((texts e).count t) 1).map .ofNat := by
    intro e _
    rw [hones, List.map_replicate]
    rfl
  have hsum : (es.map fun e => (List.replicate ((texts e).count t) 1).sum).sum =
      (es.flatMap texts).count t := by
    rw [List.count_flatMap]
    simp [Function.comp_def]
  rw [← hsum]
  exact countsTo_of_shares h hcounter hshare

omit h in
/-- The two outcomes have different texts. -/
theorem outcomeText_beq (valid other : Bool) :
    (outcomeText valid == outcomeText other) = (valid == other) := by
  revert valid other
  decide

/-- The counter of an outcome stands at how many evaluations had it. -/
theorem countsTo_ruleEvaluations (valid : Bool) :
    log.CountsTo .ruleEvaluations [outcomeText valid]
      (es.countP fun e => e.merged.isValid == valid) := by
  have hcount : (es.flatMap fun e => [outcomeText e.merged.isValid]).count (outcomeText valid) =
      es.countP fun e => e.merged.isValid == valid := by
    rw [← List.map_eq_flatMap, List.count, List.countP_map]
    exact List.countP_congr fun e _ => by rw [Function.comp_apply, outcomeText_beq]
  rw [← hcount]
  exact countsTo_of_ones h rfl fun e => amountsOf_ruleEvaluations e _

/-- The counter of matched rules stands at how many rules matched in all evaluations together. -/
theorem countsTo_rulesMatched (hexact : ∀ e ∈ es, e.merged.matched ≤ Binary64.exactBound) :
    log.CountsTo .rulesMatched [] (es.map (·.merged.matched)).sum := by
  have hsum : (es.map fun e =>
      (if e.merged.matched = 0 then [] else [e.merged.matched]).sum).sum =
      (es.map (·.merged.matched)).sum := by
    congr 1
    refine List.map_congr_left fun e _ => ?_
    split
    · next hzero => exact hzero.symm
    · exact List.sum_singleton
  rw [← hsum]
  exact countsTo_of_shares h rfl fun e he => amountsOf_rulesMatched e (hexact e he)

/-- Evaluations are counted under no label but their outcomes. -/
theorem amounts_ruleEvaluations_eq_nil {labels : List String}
    (hlabels : ∀ valid, labels ≠ [outcomeText valid]) :
    log.amounts .ruleEvaluations labels = [] := by
  rw [amounts_eq_counters log rfl, h, amountsOf_flatMap, List.flatMap_eq_nil_iff]
  intro e _
  have houtcome : amountsOf .ruleEvaluations labels
      ([outcomeText e.merged.isValid].map fun text => ⟨.ruleEvaluations, [text], .one⟩) = [] := by
    simp [amountsOf, Ne.symm (hlabels e.merged.isValid)]
  have hfailures : amountsOf .ruleEvaluations labels
      (e.failures.map fun text => ⟨.actionFailures, [text], .one⟩) = [] :=
    amountsOf_map_one_of_ne (by decide) _ _
  rw [amountsOf_counts, houtcome, hfailures, amountsOf_matchedCounts_of_ne (by decide)]
  rfl

end Standing

end MetricsLog

/-! ### The accounts of an engine -/

/-- The engine that evaluates rules, before its first call. -/
def Engine.fresh (notifier : Option Notifier) : Engine :=
  ⟨notifier, some (.ofService MetricsLog.rulesService)⟩

/-- One call of each kind, for rules that run into faults. -/
def strainedCalls : List (Binary64 × Engine.Call) :=
  let rules := readable .epoch strainedDefinitions
  let subject : Engine.Subject := ⟨.mapping strainedContext, .text "order", .null, strainedContext⟩
  [(.one, .evaluate (rules.map .rule) subject (.text "manual") false),
    (.one, .evaluateContext (rules.map .rule) (.mapping strainedContext) (.text "manual") true),
    (.one, .calculateOrder (rules.map .rule) .null .null),
    (.one, .evaluateRules (rules.map .rule) (.mapping strainedContext) false)] ++
  rules.map (fun r => (.one, .evaluateRule (.rule r) (.mapping strainedContext))) ++
  rules.map (fun r => (.one, .evaluateSingle (.rule r) subject)) ++
  [(.one, .loadRules .epoch (.mapping [("rules", .list strainedDefinitions)]))]

end Rulebook
