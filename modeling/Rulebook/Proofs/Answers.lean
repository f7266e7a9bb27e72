import Rulebook.Proofs.Refusals
import Rulebook.Proofs.Textual
import Rulebook.Proofs.Totality

/-!
# Answers to Requests for Evaluations

A request that asks for an evaluation, of a rule set or of one rule, and whose body has the form for
it is answered, or it is refused with a report. But it may also end unexpectedly, and this module
says exactly when. The reading of the rules may run into a fault, and the evaluation may, at a label
that cannot be written. A report may quote a NaN or an infinity, which JSON does not carry. The
results may hold an error or a key that is no text, which an answer cannot hold, or an integer that
is too long to be written, which cannot be sent.

A body is a value here. What its text means is settled for most texts, but not for all. How deep a
value may be nested to be followed depends on the stack of the host. Two NaNs of one body may be one
object, which the host finds equal to itself, where the values here are compared as numbers. The
halves of a surrogate pair may stand alone in a text. The last are no characters of a `String`; of
the first two a request is free that `AsksPlainly`.

## Main definitions

* `Service.runOf?`, `Service.runAlone?`: the run of rules that a request asks for.
* `Service.evaluated`, `Service.evaluatedAlone`: the results that it asks for.
* `Service.Asks`: a request asks for an evaluation, in a form that fits.
* `Service.AsksPlainly`: it does so in a body that means the same on every host.
* `Service.Ends`: how the work on such a request ends.
* `Service.Spoils`, `Service.EndsWell`: what makes it end unexpectedly, and how it ends otherwise.

## Main results

* `Service.Asks.ends`: the work ends as the results say, or as the failure to read the rules does.
* `respond_evaluation`: a request for an evaluation is answered or refused, unless it is spoiled.
-/

namespace Rulebook

namespace Service

/-! ### Requests for evaluations -/

/-- The run that a request for the evaluation of a rule set asks for. -/
def runOf? (s : Service) (o : Occasion) (form : EvaluationForm) : Except Failure Run :=
  (s.rulesOf? o form).map fun rules =>
    evaluateAll (form.stop.getD s.settings.stopOnFirstMatch) (some .silent)
      (.mapping form.context) ((Rule.registeredFor form.trigger rules).map .rule)

/-- The run of one rule. -/
def runRule (notifier : Option Notifier) (context : Value) (rule : Rule) : Run :=
  match rule.evaluate notifier context with
  | .ok result => ⟨[result], none, rule.notified notifier context⟩
  | .error fault => ⟨[], some fault, rule.notified notifier context⟩

/-- The run that a request for the evaluation of one rule asks for. -/
def runAlone? (o : Occasion) (form : RuleForm) : Except Failure Run :=
  (Rule.ofValue? o.now (.mapping form.rule)).map (runRule (some .silent) (.mapping form.context))

/-- The results of a run that was asked for, or the failure to have any. -/
def resultsOf? (run? : Except Failure Run) : Except Failure (List Result) :=
  run? >>= fun run => Fault.orFail run.finish

/-- The results that a request for the evaluation of a rule set asks for. -/
def evaluated (s : Service) (o : Occasion) (form : EvaluationForm) :
    Except Failure (List Result) := resultsOf? (s.runOf? o form)

/-- The result that a request for the evaluation of one rule asks for. -/
def evaluatedAlone (o : Occasion) (form : RuleForm) : Except Failure (List Result) :=
  resultsOf? (runAlone? o form)

/-- A request asks for an evaluation in a context, in a form that fits; what it asks for are the
results, or the failure to read the rules. -/
inductive Asks (s : Service) (o : Occasion) (r : Request) :
    Value → Except Failure (List Result) → Prop
  | ruleSet {form : EvaluationForm} : r.verb = "POST" → r.path = "/rules/evaluate" →
      Form.ofBody Form.evaluation none r.body = .ok form →
      Asks s o r (.mapping form.context) (s.evaluated o form)
  | rule {form : RuleForm} : r.verb = "POST" → r.path = "/rules/evaluate-rule" →
      Form.ofBody Form.rule none r.body = .ok form →
      Asks s o r (.mapping form.context) (evaluatedAlone o form)

/-- How deep the body of a request may be nested to be followed on every host. -/
def nestingBound : Nat := 100

/-- A request asks for an evaluation, and its body means the same on every host: it is not nested
too deeply, and where its rules are evaluated there is no NaN in it. -/
structure AsksPlainly (s : Service) (o : Occasion) (r : Request) (context : Value)
    (evaluated : Except Failure (List Result)) : Prop where
  asks : s.Asks o r context evaluated
  nested : ∀ v, r.body = some (.ok v) → v.height ≤ nestingBound
  numbers : ∀ results v, evaluated = .ok results → r.body = some (.ok v) →
    ¬(Value.float .nan).IsPart v

/-- What makes a request for an evaluation end unexpectedly. -/
inductive Spoils (context : Value) : Except Failure (List Result) → Prop
  /-- The reading of the rules runs into a fault, or the evaluation does. -/
  | fault {f : Fault} : Spoils context (.error (.fault f))
  /-- The rules are refused, with details that cannot be sent as JSON. -/
  | details {refusal : Refusal} : (Value.mapping refusal.details).isSent = false →
      Spoils context (.error (.refused refusal))
  /-- An action of a result reports what is no text, or writes under a key that is none. -/
  | action {results : List Result} {result : Result} {i : Instruction} : result ∈ results →
      i ∈ result.actions → i.isTextual context = false → Spoils context (.ok results)
  /-- The results hold an integer that is too long to be written. -/
  | long {results : List Result} : (Evaluation.ofResults results).isWritable = false →
      Spoils context (.ok results)

/-- The work on a request for an evaluation ends as its results say, or as the failure does. -/
inductive Ends (context : Value) (ending : Ending) : Except Failure (List Result) → Prop
  | failing {failure : Failure} : failure.OfRequest → ending = failed failure →
      Ends context ending (.error failure)
  | answering {results : List Result} {answer : Option Value} :
      (∀ r ∈ results, r.IsCarriedOut (some .silent) context) →
      (answer.isSome = true ↔ ∀ r ∈ results, r.outcome.IsTextual) →
      (∀ v, answer = some v → v.isSent = (Evaluation.ofResults results).isWritable) →
      ending = answerIf answer → Ends context ending (.ok results)

theorem isRead_of_rulesOf? {s : Service} {o : Occasion} {form : EvaluationForm}
    {rules : List Rule} (h : s.rulesOf? o form = .ok rules) : ∀ rule ∈ rules, rule.IsRead := by
  intro rule hrule
  rw [rulesOf?] at h
  obtain ⟨parsed, hparsed, hrules⟩ := bind_eq_ok_iff.mp h
  split at hrules
  · obtain ⟨definitions, -, rfl⟩ := map_eq_ok_iff.mp (orFail_eq_ok_iff.mp hrules)
    exact Rule.isRead_of_mem_readable hrule
  · obtain rfl := Except.ok.inj hrules
    rw [parseRules?] at hparsed
    dsimp only at hparsed
    split at hparsed
    · cases hparsed
    · obtain ⟨v, -, hv⟩ := exists_of_mem_forall₂ (mapM_eq_ok_iff.mp hparsed) hrule
      exact ⟨o.now, v, hv⟩

/-- The work on the evaluation of a rule set, by the run that it asks for. -/
theorem evaluateRuleSet_eq (s : Service) (o : Occasion) (form : EvaluationForm) :
    s.evaluateRuleSet o form =
      match s.runOf? o form with
      | .error failure => ⟨failed failure, s.metrics⟩
      | .ok run =>
        match run.finish with
        | .error _ => ⟨.unexpected, countNotifications run.notified s.metrics⟩
        | .ok results =>
          ⟨answerIf (evaluationAnswer? (.ofResults results) o.elapsed),
            countEvent "rule_set_evaluated" (countNotifications run.notified
              (s.metrics.recordEvaluation (.ofResults results) o.elapsed))⟩ := by
  rw [evaluateRuleSet, runOf?]
  cases s.rulesOf? o form with
  | error failure => rfl
  | ok rules =>
      dsimp only [Except.map]
      have hnotifier : (engine s.metrics).notifier = some .silent := rfl
      rw [Engine.evaluateContext_eq, hnotifier]
      generalize evaluateAll _ _ _ _ = run
      dsimp only
      cases run.finish with
      | error fault => rfl
      | ok results => rfl

/-- The work on the evaluation of one rule, by the run that it asks for. -/
theorem evaluateRule_eq (s : Service) (o : Occasion) (form : RuleForm) :
    s.evaluateRule o form =
      match runAlone? o form with
      | .error failure => ⟨failed failure, s.metrics⟩
      | .ok run =>
        match run.finish with
        | .error _ => ⟨.unexpected, countNotifications run.notified s.metrics⟩
        | .ok results =>
          ⟨answerIf (results.head?.bind resultAnswer?),
            countEvent "rule_evaluated" (countNotifications run.notified s.metrics)⟩ := by
  rw [evaluateRule, runAlone?]
  cases Rule.ofValue? o.now (.mapping form.rule) with
  | error failure => rfl
  | ok rule =>
      dsimp only [Except.map]
      simp only [Engine.evaluateRule, Candidate.evaluate, runRule, engine]
      cases rule.evaluate (some .silent) (.mapping form.context) with
      | error fault => rfl
      | ok result => rfl

section Work

variable {s : Service} {o : Occasion} {r : Request}

/-- A request of the method `POST` goes to its destination. -/
theorem work_of_post {route : Route} (hverb : r.verb = "POST")
    (hroute : Destination.of s.isLocal r.path "POST" = .reached route) :
    s.work o r = s.workOn o r route := by
  have hahead : r.intendedMethod? = none := by
    rw [Request.intendedMethod?, hverb, if_neg]
    rintro ⟨h, -⟩
    exact absurd h (by decide)
  rw [work, hahead, direct, hverb, hroute]

/-- The work on a request for the evaluation of a rule set. -/
theorem work_evaluateRuleSet (hverb : r.verb = "POST") (hpath : r.path = "/rules/evaluate") :
    s.work o r = s.withForm r Form.evaluation none (s.evaluateRuleSet o) := by
  have hroute : Destination.of s.isLocal r.path "POST" = .reached .evaluateRuleSet := by
    rw [hpath]
    rfl
  rw [work_of_post hverb hroute, workOn]

/-- The work on a request for the evaluation of one rule. -/
theorem work_evaluateRule (hverb : r.verb = "POST") (hpath : r.path = "/rules/evaluate-rule") :
    s.work o r = s.withForm r Form.rule none (s.evaluateRule o) := by
  have hroute : Destination.of s.isLocal r.path "POST" = .reached .evaluateRule := by
    rw [hpath]
    rfl
  rw [work_of_post hverb hroute, workOn]

/-- The results of a run that was asked for are those of the run, which went through. -/
theorem resultsOf?_eq_ok_iff {run? : Except Failure Run} {results : List Result} :
    resultsOf? run? = .ok results ↔ ∃ run, run? = .ok run ∧ run.finish = .ok results := by
  rw [resultsOf?, bind_eq_ok_iff]
  exact exists_congr fun run => and_congr_right fun _ => orFail_eq_ok_iff

/-- The results that a rule set is asked for carry out their actions. -/
theorem isCarriedOut_of_evaluated {form : EvaluationForm} {results : List Result}
    (h : s.evaluated o form = .ok results) :
    ∀ result ∈ results, result.IsCarriedOut (some .silent) (.mapping form.context) := by
  obtain ⟨run, hrun, hfinish⟩ := resultsOf?_eq_ok_iff.mp h
  obtain ⟨rules, -, rfl⟩ := map_eq_ok_iff.mp hrun
  obtain ⟨-, rfl⟩ := Run.finish_eq_ok_iff.mp hfinish
  exact fun result hresult => isCarriedOut_of_mem_evaluateAll hresult

/-- A rule that was read has one result when it is run alone, or it runs into one fault. -/
theorem finish_runRule {rule : Rule} (h : rule.IsRead) (notifier : Option Notifier)
    (context : Value) :
    (∃ result, rule.evaluate notifier context = .ok result ∧
      (runRule notifier context rule).finish = .ok [result]) ∨
    (runRule notifier context rule).finish = .error .integerTooLong := by
  rw [runRule]
  by_cases hlabelled : rule.IsLabelled context
  · obtain ⟨result, hresult⟩ := h.evaluate_ok notifier hlabelled
    rw [hresult]
    exact .inl ⟨result, rfl, rfl⟩
  · rw [h.evaluate_error notifier hlabelled]
    exact .inr rfl

/-- A rule set breaks off with one fault, if it does. -/
theorem fault_of_runOf? {form : EvaluationForm} {run : Run} (h : s.runOf? o form = .ok run)
    {fault : Fault} (hfault : run.finish = .error fault) : fault = .integerTooLong := by
  obtain ⟨rules, hrules, rfl⟩ := map_eq_ok_iff.mp h
  have hread : ∀ r ∈ Rule.registeredFor form.trigger rules, r.IsRead :=
    fun r hr => isRead_of_rulesOf? hrules r (Rule.mem_of_mem_registeredFor hr)
  obtain ⟨results, -, hrun | ⟨r, -, -, hrun⟩⟩ := evaluateAll_beginning
    (form.stop.getD s.settings.stopOnFirstMatch) (some .silent) (.mapping form.context) hread
  · rw [hrun] at hfault
    cases hfault
  · rw [hrun] at hfault
    exact (Except.error.inj hfault).symm

/-- The evaluation of a rule set ends as its results say. -/
theorem ends_evaluateRuleSet (form : EvaluationForm)
    (helapsed : (o.elapsed.mul millisecondsPerSecond).isFinite = true) :
    Ends (.mapping form.context) (s.evaluateRuleSet o form).ending (s.evaluated o form) := by
  rw [evaluateRuleSet_eq, evaluated, resultsOf?]
  cases hrun : s.runOf? o form with
  | error failure =>
      have hfails := (s.failsOnly_rulesOf? o form).map fun rules =>
        evaluateAll (form.stop.getD s.settings.stopOnFirstMatch) (some .silent)
          (.mapping form.context) ((Rule.registeredFor form.trigger rules).map .rule)
      exact .failing (hfails failure hrun) rfl
  | ok run =>
      dsimp only [bind, Except.bind]
      cases hfinish : run.finish with
      | error fault =>
          obtain rfl := fault_of_runOf? hrun hfinish
          exact .failing (.definition .integerTooLong) rfl
      | ok results =>
          have hevaluated : s.evaluated o form = .ok results :=
            resultsOf?_eq_ok_iff.mpr ⟨run, hrun, hfinish⟩
          exact .answering (isCarriedOut_of_evaluated hevaluated) isSome_evaluationAnswer?_iff
            (fun _ => isSent_of_evaluationAnswer? helapsed) rfl

/-- The evaluation of one rule ends as its result says. -/
theorem ends_evaluateRule (form : RuleForm) :
    Ends (.mapping form.context) (s.evaluateRule o form).ending (evaluatedAlone o form) := by
  rw [evaluateRule_eq, evaluatedAlone, resultsOf?, runAlone?]
  cases hrule : Rule.ofValue? o.now (.mapping form.rule) with
  | error failure =>
      exact .failing (.definition (Rule.failsOnly_ofValue? _ _ failure hrule)) rfl
  | ok rule =>
      dsimp only [Except.map, bind, Except.bind]
      rcases finish_runRule ⟨o.now, _, hrule⟩ (some .silent) (.mapping form.context) with
        ⟨result, hresult, hfinish⟩ | hfault
      · rw [hfinish]
        refine .answering ?_ ?_ ?_ rfl
        · exact List.forall_mem_singleton.mpr (Rule.isCarriedOut_of_evaluate hresult)
        · rw [List.forall_mem_singleton]
          exact isSome_resultAnswer?_iff
        · intro v hv
          rw [Evaluation.isWritable_singleton]
          exact isSent_of_resultAnswer? hv
      · rw [hfault]
        exact .failing (.definition .integerTooLong) rfl

/-- What a request asks for is how the work on it ends. -/
theorem Asks.ends {context : Value} {evaluated : Except Failure (List Result)}
    (h : s.Asks o r context evaluated)
    (helapsed : (o.elapsed.mul millisecondsPerSecond).isFinite = true) :
    Ends context (s.work o r).ending evaluated := by
  cases h with
  | @ruleSet form hverb hpath hbody =>
      rw [work_evaluateRuleSet hverb hpath, withForm, hbody]
      exact ends_evaluateRuleSet form helapsed
  | @rule form hverb hpath hbody =>
      rw [work_evaluateRule hverb hpath, withForm, hbody]
      exact ends_evaluateRule form

/-! ### Responses -/

/-- An unexpected ending is responded to as such, whatever it was. -/
theorem respond_of_unexpected (h : (s.work o r).ending = .unexpected) (log : MetricsLog) :
    (s.respond o r).2 = (s.respondInternal log).2 := by
  simp only [respond]
  rw [h]
  rfl

/-- An unexpected ending is responded to with the status 500. -/
theorem status_respond_of_unexpected (h : (s.work o r).ending = .unexpected) :
    (s.respond o r).2.status = 500 := by
  rw [respond_of_unexpected h s.metrics]
  rfl

/-- An answer that can be sent is responded with. -/
theorem respond_of_answer {v : Value} (h : (s.work o r).ending = answer v)
    (hsent : v.isSent = true) :
    (s.respond o r).2.status = 200 ∧ (s.respond o r).2.content = .json v := by
  have hcarries : carries (.json v) = true := hsent
  simp only [respond]
  rw [h, answer]
  dsimp only
  rw [respondWith, if_pos hcarries]
  exact ⟨rfl, rfl⟩

/-- An answer that cannot be sent is unexpected. -/
theorem respond_of_unsent_answer {v : Value} (h : (s.work o r).ending = answer v)
    (hsent : v.isSent = false) (log : MetricsLog) :
    (s.respond o r).2 = (s.respondInternal log).2 := by
  have hcarries : ¬carries (.json v) = true := Bool.eq_false_iff.mp hsent
  simp only [respond]
  rw [h, answer]
  dsimp only
  rw [respondWith, if_neg hcarries]
  rfl

/-- The report of a refusal is sent when its details are. -/
theorem carries_reportContent (refusal : Refusal) (requestId : String) :
    carries (.json (reportContent refusal requestId)) = (Value.mapping refusal.details).isSent := by
  simp [carries, reportContent, Value.isSent, Value.isCarried, Value.entriesCarried,
    Value.isWritable, Value.entriesWritable]

theorem respond_of_refused {refusal : Refusal} (h : (s.work o r).ending = .refused refusal)
    (hsent : (Value.mapping refusal.details).isSent = true) :
    (s.respond o r).2.status = refusal.family.status ∧
      (s.respond o r).2.content = .json (reportContent refusal (requestIdOf o r)) := by
  rw [← carries_reportContent refusal (requestIdOf o r)] at hsent
  simp only [respond]
  rw [h]
  dsimp only
  rw [respondWith, if_pos hsent]
  exact ⟨rfl, rfl⟩

/-- A refusal whose report cannot be sent is unexpected. -/
theorem respond_of_unsent {refusal : Refusal} (h : (s.work o r).ending = .refused refusal)
    (hsent : (Value.mapping refusal.details).isSent = false) (log : MetricsLog) :
    (s.respond o r).2 = (s.respondInternal log).2 := by
  rw [← carries_reportContent refusal (requestIdOf o r)] at hsent
  simp only [respond]
  rw [h]
  dsimp only
  rw [respondWith, if_neg (Bool.eq_false_iff.mp hsent)]
  rfl

theorem status_respond_of_unsent {refusal : Refusal}
    (h : (s.work o r).ending = .refused refusal)
    (hsent : (Value.mapping refusal.details).isSent = false) :
    (s.respond o r).2.status = 500 := by
  rw [respond_of_unsent h hsent s.metrics]
  rfl

/-- A response with the status 200 holds what the work was answered with, which can be sent. -/
theorem answered_of_status_respond (h : (s.respond o r).2.status = 200) :
    ∃ content, (s.work o r).ending = .answered 200 content ∧
      (s.respond o r).2.content = content ∧ carries content = true := by
  simp only [respond] at h ⊢
  cases hending : (s.work o r).ending with
  | unexpected =>
      rw [hending] at h
      cases h
  | answered status content =>
      rw [hending] at h
      dsimp only at h ⊢
      rw [respondWith] at h ⊢
      split at h
      · next hcarries =>
        obtain rfl : status = 200 := h
        rw [if_pos hcarries]
        exact ⟨content, rfl, rfl, hcarries⟩
      · cases h
  | refused refusal =>
      rw [hending] at h
      dsimp only at h
      rw [respondWith] at h
      split at h
      · cases hfamily : refusal.family <;> rw [hfamily] at h <;> cases h
      · cases h

/-- Results are spoiled exactly when one of them is not textual, or they cannot be written. -/
theorem spoils_ok_iff {context : Value} {results : List Result}
    (hcarried : ∀ r ∈ results, r.IsCarriedOut (some .silent) context) :
    Spoils context (.ok results) ↔
      (¬∀ r ∈ results, r.outcome.IsTextual) ∨
        (Evaluation.ofResults results).isWritable = false := by
  have hactions : ∀ r ∈ results,
      (r.outcome.IsTextual ↔ ∀ i ∈ r.actions, i.isTextual context = true) := by
    intro r hr
    rw [(hcarried r hr).outcome]
    exact Outcome.isTextual_ofInstructions
  constructor
  · intro h
    cases h with
    | @action _ result i hresult hi hnot =>
        refine .inl fun hall => ?_
        have htextual := (hactions result hresult).mp (hall result hresult) i hi
        rw [hnot] at htextual
        cases htextual
    | long hlong => exact .inr hlong
  · rintro (h | hlong)
    · simp only [not_forall] at h
      obtain ⟨result, hresult, hnot⟩ := h
      rw [hactions result hresult] at hnot
      simp only [not_forall, Bool.not_eq_true] at hnot
      obtain ⟨i, hi, hother⟩ := hnot
      exact .action hresult hi hother
    · exact .long hlong

/-- A fault that the work ends with is one of four. -/
theorem Ends.fault {context : Value} {ending : Ending} {f : Fault}
    (h : Ends context ending (.error (.fault f))) :
    f = .tooDeep ∨ f = .integerTooLarge ∨ f = .integerTooLong ∨
      ∃ typeName, f = .missingPart typeName "get" := by
  cases h with
  | failing hrequest _ => exact hrequest.fault

/-- How a request for an evaluation ends well: with an answer, or with a report of a refusal. -/
inductive EndsWell (requestId : String) (response : Response) :
    Except Failure (List Result) → Prop
  | answered {results : List Result} : response.status = 200 →
      EndsWell requestId response (.ok results)
  | reported {refusal : Refusal} : response.status = 400 →
      refusal.code ∈ Failure.requestCodes →
      response.content = .json (reportContent refusal requestId) →
      EndsWell requestId response (.error (.refused refusal))

theorem EndsWell.status_ne {requestId : String} {response : Response}
    {evaluated : Except Failure (List Result)} (h : EndsWell requestId response evaluated) :
    response.status ≠ 500 := by
  cases h with
  | answered hstatus =>
      rw [hstatus]
      decide
  | reported hstatus _ _ =>
      rw [hstatus]
      decide

/-- Work that ends as its results say, or as the failure does, is spoiled or ends well. -/
theorem Ends.spoils_or_endsWell {context : Value} {evaluated : Except Failure (List Result)}
    (h : Ends context (s.work o r).ending evaluated) :
    Spoils context evaluated ∧ (s.respond o r).2.status = 500 ∨
      ¬Spoils context evaluated ∧ EndsWell (requestIdOf o r) (s.respond o r).2 evaluated := by
  cases h with
  | @failing failure hrequest hending =>
      cases failure with
      | fault f => exact Or.inl ⟨.fault, status_respond_of_unexpected hending⟩
      | refused refusal =>
          cases hsent : (Value.mapping refusal.details).isSent with
          | false => exact Or.inl ⟨.details hsent, status_respond_of_unsent hending hsent⟩
          | true =>
              obtain ⟨hfamily, hcode⟩ := hrequest.report
              obtain ⟨hstatus, hcontent⟩ := respond_of_refused hending hsent
              refine Or.inr ⟨?_, .reported (hstatus.trans hfamily) hcode hcontent⟩
              rintro (_ | hdetails)
              rw [hsent] at hdetails
              cases hdetails
  | @answering results answer hcarriedOut hsome hsent hending =>
      have hspoils := spoils_ok_iff hcarriedOut
      rw [← hsome] at hspoils
      cases answer with
      | none =>
          exact Or.inl ⟨hspoils.mpr (.inl Bool.false_ne_true),
            status_respond_of_unexpected hending⟩
      | some v =>
          cases hwritable : (Evaluation.ofResults results).isWritable with
          | false =>
              refine Or.inl ⟨.long hwritable, ?_⟩
              rw [respond_of_unsent_answer hending ((hsent v rfl).trans hwritable) s.metrics]
              rfl
          | true =>
              refine Or.inr ⟨fun h => ?_, .answered ?_⟩
              · rcases hspoils.mp h with hnone | hlong
                · exact hnone rfl
                · rw [hwritable] at hlong
                  cases hlong
              · exact (respond_of_answer hending ((hsent v rfl).trans hwritable)).1

end Work

end Service

/-- **A request for an evaluation is answered or refused, unless it is spoiled.** A request to
either route for evaluations, with a body in the form for it that means the same on every host, is
answered with the status 200 when the rules are read and evaluated, and reported with the status 400
and a code of its own when they are refused. It ends with the status 500 exactly when something
spoils it. Of the faults that may be met there are four: conditions that are nested too deeply, a
priority that is too large, an id or a label that is too long to be written, and a tenant's
configuration that is no mapping. -/
theorem respond_evaluation {s : Service} {o : Occasion} {r : Request} {context : Value}
    {evaluated : Except Failure (List Result)} (hasked : s.AsksPlainly o r context evaluated)
    (helapsed : (o.elapsed.mul Service.millisecondsPerSecond).isFinite = true) :
    ((s.respond o r).2.status = 500 ↔ Service.Spoils context evaluated) ∧
    (¬Service.Spoils context evaluated →
      Service.EndsWell (Service.requestIdOf o r) (s.respond o r).2 evaluated) ∧
    ∀ f, evaluated = .error (.fault f) →
      f = .tooDeep ∨ f = .integerTooLarge ∨ f = .integerTooLong ∨
        ∃ typeName, f = .missingPart typeName "get" := by
  have hends := hasked.asks.ends helapsed
  refine ⟨?_, ?_, ?_⟩
  · rcases hends.spoils_or_endsWell with ⟨hspoils, hstatus⟩ | ⟨hspoils, hwell⟩
    · exact iff_of_true hstatus hspoils
    · exact iff_of_false hwell.status_ne hspoils
  · intro hnot
    rcases hends.spoils_or_endsWell with ⟨hspoils, -⟩ | ⟨-, hwell⟩
    · exact absurd hspoils hnot
    · exact hwell
  · rintro f rfl
    exact hends.fault

/-- A service under development that has seen no request. -/
def freshService : Service where
  settings := {
    env := "local", logLevel := "info", stopOnFirstMatch := false, maxRules := 500,
    serviceName := Service.serviceName, port := Service.port
    host := ServiceSettings.defaultHost }
  dependencies := .ok (.mapping [])
  revision := "unknown"
  metrics := .ofService Service.serviceName

/-- An occasion on which everything takes a second. -/
def firstOccasion : Occasion := ⟨.epoch, .one, .one, "first"⟩

/-- What is asked of the evaluation of a rule that reports a message. -/
def reportingForm (message : Value) : RuleForm where
  rule := [("id", .text "report"), ("name", .text "Report"),
    ("actions", .list [.mapping [("type", .text "error"), ("message", message)]])]
  context := []

/-- The body in which that is asked. -/
def reportingBody (message : Value) : Value := .mapping [
  ("rule", .mapping (reportingForm message).rule),
  ("context", .mapping (reportingForm message).context)]

/-- A request with this body. -/
def reportingRequest (message : Value) : Request where
  method := "POST"
  target := "/rules/evaluate-rule"
  headers := []
  body := some (.ok (reportingBody message))

/-- The request asks for the result of the rule, plainly when its body is free of NaNs and not
nested too deeply. -/
theorem asksPlainly_reportingRequest {message : Value}
    (hcarried : (reportingBody message).isCarried = true)
    (hheight : (reportingBody message).height ≤ Service.nestingBound) :
    freshService.AsksPlainly firstOccasion (reportingRequest message) (.mapping [])
      (Service.evaluatedAlone firstOccasion (reportingForm message)) := by
  have hverb : (reportingRequest message).verb = "POST" := by
    change (reportingRequest .null).verb = "POST"
    decide +kernel
  have hpath : (reportingRequest message).path = "/rules/evaluate-rule" := by
    change (reportingRequest .null).path = "/rules/evaluate-rule"
    decide +kernel
  have hbody : ∀ v, (reportingRequest message).body = some (.ok v) → reportingBody message = v :=
    fun v hv => Except.ok.inj (Option.some.inj hv)
  refine ⟨.rule hverb hpath rfl, fun v hv => ?_, fun _ v _ hv => ?_⟩
  · rw [← hbody v hv]
    exact hheight
  · rw [← hbody v hv]
    exact Value.not_isPart_nan_of_isCarried hcarried

/-- The response to a request with a message that is a text, which nothing spoils. -/
theorem respond_evaluation_text :
    (firstOccasion.elapsed.mul Service.millisecondsPerSecond).isFinite = true ∧
    ∃ evaluated,
      freshService.AsksPlainly firstOccasion (reportingRequest (.text "Late")) (.mapping [])
        evaluated ∧
      ¬Service.Spoils (.mapping []) evaluated ∧
      (freshService.respond firstOccasion (reportingRequest (.text "Late"))).2.status = 200 := by
  have helapsed : (firstOccasion.elapsed.mul Service.millisecondsPerSecond).isFinite = true := by
    decide +kernel
  have hasked : freshService.AsksPlainly firstOccasion (reportingRequest (.text "Late"))
      (.mapping []) (Service.evaluatedAlone firstOccasion (reportingForm (.text "Late"))) :=
    asksPlainly_reportingRequest (by decide +kernel) (by decide +kernel)
  cases hevaluated : Service.evaluatedAlone firstOccasion (reportingForm (.text "Late")) with
  | error failure =>
      have hok : (Service.evaluatedAlone firstOccasion
          (reportingForm (.text "Late"))).toBool = true := by
        decide +kernel
      rw [hevaluated] at hok
      cases hok
  | ok results =>
      have hclean : (Service.evaluatedAlone firstOccasion
          (reportingForm (.text "Late"))).toOption.all (fun results =>
            (Evaluation.ofResults results).isWritable &&
              results.all fun result => result.actions.all (·.isTextual (.mapping []))) = true := by
        decide +kernel
      rw [hevaluated] at hasked hclean
      simp only [Except.toOption, Option.all_some, Bool.and_eq_true] at hclean
      obtain ⟨hwritable, htextual⟩ := hclean
      have hspoils : ¬Service.Spoils (.mapping []) (.ok results) := by
        rintro (_ | _ | ⟨hresult, hi, hnot⟩ | hlong)
        · rw [List.all_eq_true.mp (List.all_eq_true.mp htextual _ hresult) _ hi] at hnot
          cases hnot
        · rw [hwritable] at hlong
          cases hlong
      obtain ⟨-, hwell, -⟩ := respond_evaluation hasked helapsed
      cases hwell hspoils with
      | answered hstatus => exact ⟨helapsed, _, hasked, hspoils, hstatus⟩

/-- A message that is no text ends a request for an evaluation unexpectedly. -/
theorem respond_evaluation_number :
    (∃ evaluated,
      freshService.AsksPlainly firstOccasion (reportingRequest (.int 5)) (.mapping []) evaluated) ∧
    (freshService.respond firstOccasion (reportingRequest (.int 5))).2.status = 500 := by
  refine ⟨⟨_, asksPlainly_reportingRequest (by decide +kernel) (by decide +kernel)⟩, ?_⟩
  decide +kernel

end Rulebook
