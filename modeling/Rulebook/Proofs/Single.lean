import Rulebook.Proofs.Sources
import Rulebook.Proofs.Told

/-!
# A Rule Alone and a Rule Set of One

A rule can be asked for alone, and as the only rule of a rule set for no event. The work is not the
same: a rule set is chosen from, brought into order, cut and merged, and its answer has more to it.
This module shows that the two requests come to the same. They have the same result, or the same
failure to read the rule; one is answered exactly when the other is, the answer to the rule alone
standing among the results of the other; and what is reported of a failure is the same.

The limit to which conditions are followed is one for both. On a host whose stack decides, the rule
set may reach its limit a few calls earlier (`Condition.depthLimit`).

## Main definitions

* `Service.IsConfigured`: a service with the settings of some environment.
* `Service.ReportedLike`, `Service.AnsweredAsResult`: how the two responses go together.

## Main results

* `Service.IsConfigured.one_le_maxRules`: the limit on the number of rules lets one rule through.
* `Service.runOf?_single`: the run of a rule set of one is the run of the rule alone.
* `Service.exists_evaluationAnswer?_single`: the answer to a rule set of one holds the answer to
  the rule alone.
* `respond_single`: both requests are responded to alike.
-/

namespace Rulebook

/-! ### Settings -/

namespace Setting

/-- An integer that is accepted from a bound on is not below it. -/
theorem le_of_intFrom? {least n : ℤ} {v : Value} (h : intFrom? least v = .ok n) : least ≤ n := by
  rw [intFrom?] at h
  split at h
  · split at h
    · obtain rfl := Except.ok.inj h
      assumption
    · cases h
  · cases h

/-- What holds of all that a check accepts, and of what stands in its stead, holds of a setting. -/
theorem of_read {α : Type} {P : α → Prop} {check : Value → Checked α} {instead : α}
    (hcheck : ∀ v a, check v = .ok a → P a) (hinstead : P instead)
    (environment given : List (String × Value)) (name : String) :
    P (read environment given name check instead).1 := by
  rw [read]
  split
  · exact hinstead
  · split
    · exact hcheck _ _ ‹_›
    · exact hinstead

end Setting

namespace Service

/-- A service with the settings that some environment gives. -/
def IsConfigured (s : Service) : Prop :=
  ∃ environment,
    ServiceSettings.load? environment (.text serviceName) (.int port) = .ok s.settings

/-- **The limit on the number of rules lets one through**, whatever the environment is. -/
theorem IsConfigured.one_le_maxRules {s : Service} (h : s.IsConfigured) :
    1 ≤ s.settings.maxRules := by
  obtain ⟨environment, hsettings⟩ := h
  have hread : ∀ given, 1 ≤ (Settings.read environment given).1.maxRules := fun given =>
    Setting.of_read (fun _ _ => Setting.le_of_intFrom?) (by decide) environment given _
  rw [ServiceSettings.load?] at hsettings
  dsimp only at hsettings
  split at hsettings
  · rw [← Except.ok.inj hsettings]
    exact hread _
  · cases hsettings

end Service

/-! ### Evaluating -/

/-- A rule set of one is run as the rule alone is, wherever it stops. -/
theorem evaluateAll_single {r : Rule} (hread : r.IsRead) (stop : Bool) (notifier : Option Notifier)
    (context : Value) : evaluateAll stop notifier context [.rule r] =
      Service.runRule notifier context r := by
  have hordered : Candidate.inOrder [.rule r] = .ok [.rule r] := by
    have harranged := Candidate.inOrder_rules (List.forall_mem_singleton.mpr hread)
    rw [Rule.arranged, List.mergeSort_singleton] at harranged
    exact harranged
  rw [evaluateAll, hordered]
  dsimp only
  rw [Run.ofCandidates, Candidate.evaluate, Candidate.notified, Service.runRule]
  cases r.evaluate notifier context with
  | error fault => rfl
  | ok result =>
      dsimp only
      split
      · rfl
      · rw [Run.ofCandidates, List.append_nil]

namespace Service

variable {s : Service} {o : Occasion} {rule context : List (String × Value)} {trigger : Value}
  {stop : Option Bool}

/-- **The run of a rule set of one is the run of the rule alone**, for no event and wherever it
stops. -/
theorem runOf?_single (hlimit : 1 ≤ s.settings.maxRules) (htrigger : trigger.isTruthy = false) :
    s.runOf? o ⟨[.mapping rule], context, trigger, stop⟩ = runAlone? o ⟨rule, context⟩ := by
  have hone : [Value.mapping rule].length ≤ s.settings.maxRules.toNat := by
    rw [List.length_singleton]
    omega
  rw [runOf?, rulesOf?_of_brought (List.cons_ne_nil _ _) hone, runAlone?]
  dsimp only
  rw [List.mapM_cons, List.mapM_nil]
  cases hrule : Rule.ofValue? o.now (.mapping rule) with
  | error failure => rfl
  | ok r =>
      have hregistered : Rule.registeredFor trigger [r] = [r] := by
        rw [Rule.registeredFor, htrigger]
        rfl
      dsimp only [bind, Except.bind, pure, Except.pure, Except.map]
      rw [hregistered, List.map_singleton, evaluateAll_single ⟨o.now, _, hrule⟩]

end Service

/-! ### Answering -/

namespace Service

variable {notifier : Option Notifier} {context : Value} {result : Result}

/-- **The answer to a rule set of one holds the answer to the rule alone**: as its only result, and
with the errors and the values of that result as its own. -/
theorem exists_evaluationAnswer?_single (h : result.IsCarriedOut notifier context) {v : Value}
    (hanswer : resultAnswer? result = some v) (elapsed : Binary64) :
    ∃ fields errors values,
      evaluationAnswer? (.ofResults [result]) elapsed = some (.mapping fields) ∧
      Value.lookup "results" fields = some (.list [v]) ∧
      Value.lookup "errors" fields = some errors ∧ v.get? "errors" = some errors ∧
      Value.lookup "applied_values" fields = some values ∧
      v.get? "applied_values" = some values := by
  have htold := isToldBy_of_resultAnswer? hanswer
  obtain ⟨errors, herrors, hrest⟩ := Option.bind_eq_some_iff.mp hanswer
  obtain ⟨values, hvalues, -⟩ := Option.bind_eq_some_iff.mp hrest
  obtain ⟨values', hvalues', happlied⟩ := htold.values
  obtain rfl := Option.some.inj (hvalues.symm.trans hvalues')
  obtain rfl := eq_list_of_errorsOf? herrors
  obtain ⟨hmergedValues, hmergedErrors⟩ := Merged.ofResults_singleton h
  have hresults : [result].mapM resultAnswer? = some [v] :=
    mapM_eq_some_iff.mpr (.cons hanswer .nil)
  have hmerged : evaluationAnswer? (.ofResults [result]) elapsed = some (.mapping [
      ("is_valid", .bool (Merged.ofResults [result]).isValid),
      ("errors", .list result.outcome.errors),
      ("applied_values", values.jsonSafe),
      ("matched_rules", .int (Merged.ofResults [result]).matched),
      ("results", .list [v]),
      ("evaluation_time_ms", .float (elapsed.mul millisecondsPerSecond))]) := by
    simp [evaluationAnswer?, Evaluation.ofResults, hmergedErrors, hmergedValues, herrors, hvalues,
      hresults]
  exact ⟨_, _, _, hmerged, rfl, rfl, htold.errors, rfl, happlied⟩

end Service

/-! ### Responding -/

namespace Service

variable {s s' : Service} {o o' : Occasion} {r r' : Request}

/-- A response is **reported like** another one: neither is an answer, the status is the same, and
so is the content but for the id of the request. -/
structure ReportedLike (response response' : Response) : Prop where
  status : response.status = response'.status
  failed : response.status ≠ 200
  content : response.content.hide [Content.requestIdField] =
    response'.content.hide [Content.requestIdField]

/-- A response is **answered as the only result** of another one: both are answers, the one is the
only result in the other, and the errors and the values of the other are those of the result. -/
structure AnsweredAsResult (response response' : Response) : Prop where
  status : response.status = 200
  status' : response'.status = 200
  content : ∃ answer fields errors values,
    response.content = .json answer ∧ response'.content = .json (.mapping fields) ∧
      Value.lookup "results" fields = some (.list [answer]) ∧
      Value.lookup "errors" fields = some errors ∧ answer.get? "errors" = some errors ∧
      Value.lookup "applied_values" fields = some values ∧
      answer.get? "applied_values" = some values

theorem reportedLike_respondInternal (s s' : Service) (log log' : MetricsLog) :
    ReportedLike (s.respondInternal log).2 (s'.respondInternal log').2 :=
  ⟨rfl, (by decide : 500 ≠ 200), rfl⟩

/-- Unexpected endings are responded to alike. -/
theorem reportedLike_of_unexpected (h : (s.work o r).ending = .unexpected)
    (h' : (s'.work o' r').ending = .unexpected) :
    ReportedLike (s.respond o r).2 (s'.respond o' r').2 := by
  rw [respond_of_unexpected h s.metrics, respond_of_unexpected h' s'.metrics]
  exact reportedLike_respondInternal s s' _ _

/-- Work that ends in one failure is responded to alike. -/
theorem reportedLike_of_failed {failure : Failure} (h : (s.work o r).ending = failed failure)
    (h' : (s'.work o' r').ending = failed failure) :
    ReportedLike (s.respond o r).2 (s'.respond o' r').2 := by
  cases failure with
  | fault f => exact reportedLike_of_unexpected h h'
  | refused refusal =>
      cases hsent : (Value.mapping refusal.details).isSent with
      | false =>
          rw [respond_of_unsent h hsent s.metrics, respond_of_unsent h' hsent s'.metrics]
          exact reportedLike_respondInternal s s' _ _
      | true =>
          obtain ⟨hstatus, hcontent⟩ := respond_of_refused h hsent
          obtain ⟨hstatus', hcontent'⟩ := respond_of_refused h' hsent
          refine ⟨hstatus.trans hstatus'.symm, ?_, ?_⟩
          · rw [hstatus]
            cases refusal.family <;> decide
          · rw [hcontent, hcontent']
            simp [Content.hide, Value.hide, Content.requestIdField, reportContent]

/-- Work that ends with the answers to one result, if there are any, is responded to alike. -/
theorem answeredAsResult_or_reportedLike {notifier : Option Notifier} {context : Value}
    {result : Result} (hresult : result.IsCarriedOut notifier context)
    (helapsed : (o'.elapsed.mul millisecondsPerSecond).isFinite = true)
    (h : (s.work o r).ending = answerIf (resultAnswer? result))
    (h' : (s'.work o' r').ending =
      answerIf (evaluationAnswer? (.ofResults [result]) o'.elapsed)) :
    AnsweredAsResult (s.respond o r).2 (s'.respond o' r').2 ∨
      ReportedLike (s.respond o r).2 (s'.respond o' r').2 := by
  cases hanswer : resultAnswer? result with
  | none =>
      have hnone : evaluationAnswer? (.ofResults [result]) o'.elapsed = none := by
        refine Option.eq_none_iff_forall_not_mem.mpr fun v hv => ?_
        have htextual := isSome_evaluationAnswer?_iff.mp (Option.isSome_iff_exists.mpr ⟨v, hv⟩)
        have hsome := isSome_resultAnswer?_iff.mpr (htextual result List.mem_cons_self)
        rw [hanswer] at hsome
        cases hsome
      rw [hanswer] at h
      rw [hnone] at h'
      exact .inr (reportedLike_of_unexpected h h')
  | some v =>
      obtain ⟨fields, errors, values, hmerged, hfields⟩ :=
        exists_evaluationAnswer?_single hresult hanswer o'.elapsed
      rw [hanswer] at h
      rw [hmerged] at h'
      have hsent := isSent_of_resultAnswer? hanswer
      have hsent' := isSent_of_evaluationAnswer? helapsed hmerged
      rw [Evaluation.isWritable_singleton] at hsent'
      cases hwritable : result.isWritable with
      | false =>
          rw [hwritable] at hsent hsent'
          rw [respond_of_unsent_answer h hsent s.metrics,
            respond_of_unsent_answer h' hsent' s'.metrics]
          exact .inr (reportedLike_respondInternal s s' _ _)
      | true =>
          rw [hwritable] at hsent hsent'
          obtain ⟨hstatus, hcontent⟩ := respond_of_answer h hsent
          obtain ⟨hstatus', hcontent'⟩ := respond_of_answer h' hsent'
          exact .inl ⟨hstatus, hstatus', v, fields, errors, values, hcontent, hcontent', hfields⟩

end Service

/-- **A rule alone and a rule set of one are responded to alike.** Of two requests, one asks for the
evaluation of a rule in a context, and the other for that of a rule set which consists of the rule,
in the same context, for no event and wherever it stops. The responses have the same status. If that
is 200, the one answer is the only result in the other, whose errors and values are those of the
result. Otherwise they hold the same but for the ids of the requests. -/
theorem respond_single {s s' : Service} (hs' : s'.IsConfigured) {o o' : Occasion}
    (helapsed : (o'.elapsed.mul Service.millisecondsPerSecond).isFinite = true) {r r' : Request}
    {rule context : List (String × Value)} {trigger : Value} {stop : Option Bool}
    (hverb : r.verb = "POST") (hpath : r.path = "/rules/evaluate-rule")
    (hbody : Form.ofBody Form.rule none r.body = .ok ⟨rule, context⟩)
    (hverb' : r'.verb = "POST") (hpath' : r'.path = "/rules/evaluate")
    (hbody' : Form.ofBody Form.evaluation none r'.body =
      .ok ⟨[.mapping rule], context, trigger, stop⟩)
    (htrigger : trigger.isTruthy = false) :
    (s.respond o r).2.status = (s'.respond o' r').2.status ∧
    ((s.respond o r).2.status = 200 → ∃ answer fields errors values,
      (s.respond o r).2.content = .json answer ∧
      (s'.respond o' r').2.content = .json (.mapping fields) ∧
      Value.lookup "results" fields = some (.list [answer]) ∧
      Value.lookup "errors" fields = some errors ∧ answer.get? "errors" = some errors ∧
      Value.lookup "applied_values" fields = some values ∧
      answer.get? "applied_values" = some values) ∧
    ((s.respond o r).2.status ≠ 200 →
      (s.respond o r).2.content.hide [Content.requestIdField] =
        (s'.respond o' r').2.content.hide [Content.requestIdField]) := by
  have hending : (s.work o r).ending = (s.evaluateRule o ⟨rule, context⟩).ending := by
    rw [Service.work_evaluateRule hverb hpath, Service.withForm, hbody]
  have hending' : (s'.work o' r').ending =
      (s'.evaluateRuleSet o' ⟨[.mapping rule], context, trigger, stop⟩).ending := by
    rw [Service.work_evaluateRuleSet hverb' hpath', Service.withForm, hbody']
  rw [Service.evaluateRule_eq] at hending
  rw [Service.evaluateRuleSet_eq, Service.runOf?_single hs'.one_le_maxRules htrigger,
    Service.runAlone?_congr o' o] at hending'
  have hlike : Service.AnsweredAsResult (s.respond o r).2 (s'.respond o' r').2 ∨
      Service.ReportedLike (s.respond o r).2 (s'.respond o' r').2 := by
    cases hrule : Rule.ofValue? o.now (.mapping rule) with
    | error failure =>
        rw [Service.runAlone?, hrule] at hending hending'
        exact .inr (Service.reportedLike_of_failed hending hending')
    | ok parsed =>
        rw [Service.runAlone?, hrule] at hending hending'
        dsimp only [Except.map] at hending hending'
        rcases Service.finish_runRule ⟨o.now, _, hrule⟩ (some .silent) (.mapping context) with
          ⟨result, hresult, hfinish⟩ | hfault
        · rw [hfinish] at hending hending'
          exact Service.answeredAsResult_or_reportedLike (Rule.isCarriedOut_of_evaluate hresult)
            helapsed hending hending'
        · rw [hfault] at hending hending'
          exact .inr (Service.reportedLike_of_unexpected hending hending')
  rcases hlike with h | h
  · exact ⟨h.status.trans h.status'.symm, fun _ => h.content, fun hfailed =>
      absurd h.status hfailed⟩
  · exact ⟨h.status, fun hanswered => absurd hanswered h.failed, fun _ => h.content⟩

/-- A rule that writes an infinity and reports a message. -/
def boundlessRule : List (String × Value) := [
  ("id", .text "boundless"), ("name", .text "Boundless"),
  ("actions", .list [
    .mapping [("type", .text "set_field"), ("field", .text "most"),
      ("value", .float (.infinite false))],
    .mapping [("type", .text "error"), ("message", .text "No bound")]])]

/-- A request for the rule alone. -/
def boundlessRequest : Request where
  method := "POST"
  target := "/rules/evaluate-rule"
  headers := []
  body := some (.ok (.mapping [
    ("rule", .mapping boundlessRule), ("context", .mapping (tenantContext []))]))

/-- The rule is evaluated alone as it is in a rule set. -/
theorem respond_single_boundless :
    freshService.IsConfigured ∧
    (secondOccasion.elapsed.mul Service.millisecondsPerSecond).isFinite = true ∧
    boundlessRequest.verb = "POST" ∧ boundlessRequest.path = "/rules/evaluate-rule" ∧
    (sourcesRequest [.mapping boundlessRule] []).verb = "POST" ∧
    (sourcesRequest [.mapping boundlessRule] []).path = "/rules/evaluate" ∧
    (freshService.respond firstOccasion boundlessRequest).2.status = 200 ∧
    (freshService.respond secondOccasion (sourcesRequest [.mapping boundlessRule] [])).2.status =
      200 ∧
    ∃ answer fields,
      (freshService.respond firstOccasion boundlessRequest).2.content = .json answer ∧
      (freshService.respond secondOccasion
        (sourcesRequest [.mapping boundlessRule] [])).2.content = .json (.mapping fields) ∧
      Value.lookup "results" fields = some (.list [answer]) := by
  have hconfigured : freshService.IsConfigured := ⟨[], rfl⟩
  have helapsed := isMeasured_secondOccasion.elapsed
  have hverb : boundlessRequest.verb = "POST" := by decide +kernel
  have hpath : boundlessRequest.path = "/rules/evaluate-rule" := by decide +kernel
  have hverb' := verb_sourcesRequest [.mapping boundlessRule] []
  have hpath' := path_sourcesRequest [.mapping boundlessRule] []
  have hanswered : (freshService.respond firstOccasion boundlessRequest).2.status = 200 := by
    decide +kernel
  obtain ⟨hstatus, hcontent, -⟩ := respond_single (s := freshService) (o := firstOccasion)
    hconfigured helapsed hverb hpath rfl hverb' hpath' rfl rfl
  obtain ⟨answer, fields, errors, values, halone, hset, hresults, -⟩ := hcontent hanswered
  exact ⟨hconfigured, helapsed, hverb, hpath, hverb', hpath', hanswered, hstatus ▸ hanswered,
    answer, fields, halone, hset, hresults⟩

end Rulebook
