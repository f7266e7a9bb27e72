import Rulebook.Proofs.Growth
import Rulebook.Proofs.Occasions
import Rulebook.Service.Session

/-!
# Requests Are Served Independently

What a service keeps between requests are its metrics, and the ids of what it served last. Neither
shows in a later response, but for the samples of the metrics: a request is responded to as it would
be by a service that has served nothing, whatever went before it. And what a request adds to the
counters does not depend on what went before it, either, so that the counters are the same for
requests in any order.

The moment of a request, the time that it takes and an id made for it do show. Responses are
compared with these left out.

## Main definitions

* `Occasion.IsMeasured`: the times of an occasion are finite numbers.
* `Response.compared`: a response without the moment, the times and a fresh id.
* `Service.withMetrics`: a service at another point of its life.
* `Ending.Alike`: work ends alike.

## Main results

* `Service.respond_alike`: a request is responded to alike at any two points of a service's life.
* `Session.respond_eq`: the ids that are kept do not show in a response.
* `Session.respondAll_stateless`: requests are served independently, and counted in any order.
-/

namespace Rulebook

/-! ### What is compared -/

/-- The times of an occasion are finite numbers, as measured times are. -/
structure Occasion.IsMeasured (o : Occasion) : Prop where
  uptime : o.uptime.isFinite = true
  elapsed : (o.elapsed.mul Service.millisecondsPerSecond).isFinite = true

namespace Value

/-- A mapping with `null` under some of its keys. -/
def hide (names : List String) : Value → Value
  | mapping entries =>
    mapping (entries.map fun e => if names.contains e.1 then (e.1, null) else e)
  | v => v

/-- Hiding one more key is hiding it afterwards. -/
theorem hide_cons (name : String) (names : List String) (v : Value) :
    v.hide (name :: names) = (v.hide names).hide [name] := by
  cases v with
  | mapping entries =>
      simp only [hide, List.map_map]
      congr 1
      refine List.map_congr_left fun e _ => ?_
      simp only [Function.comp_apply, List.contains_cons]
      by_cases hname : e.1 = name
      · simp only [hname, beq_self_eq_true, Bool.true_or, if_true]
        split
        · simp
        · simp [hname]
      · have hbeq : (e.1 == name) = false := beq_eq_false_iff_ne.mpr hname
        simp only [hbeq, Bool.false_or]
        split
        · simp [hbeq]
        · simp [hbeq]
  | _ => rfl

end Value

namespace Content

/-- The fields of answers that hold the moment of a request, or a time that was measured. -/
def occasional : List String :=
  ["uptime_seconds", "evaluation_time_ms", "created_at", "updated_at"]

/-- The field of reports that holds the id of a request. -/
def requestIdField : String := "request_id"

/-- A content with some fields hidden, and without samples. -/
def hide (names : List String) : Content → Content
  | json v => json (v.hide names)
  | samples _ => samples []
  | c => c

theorem hide_cons (name : String) (names : List String) (c : Content) :
    c.hide (name :: names) = (c.hide names).hide [name] := by
  cases c with
  | json v => exact congrArg json (v.hide_cons name names)
  | _ => rfl

end Content

/-- **What is compared of a response** to a request: its status, its content but for the moment and
the measured times, and the id of the request where the request brought one. -/
def Response.compared (r : Request) (response : Response) : Response :=
  match r.header? Request.requestIdHeader with
  | some _ => { response with content := response.content.hide Content.occasional }
  | none =>
    { response with
      requestId := response.requestId.map fun _ => ""
      content := response.content.hide (Content.requestIdField :: Content.occasional) }

/-- Two endings are **alike**: they differ in the moment and in measured times, or in the samples of
the metrics. -/
inductive Ending.Alike : Ending → Ending → Prop
  | refl (ending : Ending) : Alike ending ending
  | json {status : Nat} {v v' : Value} :
      v.hide Content.occasional = v'.hide Content.occasional → v.isSent = v'.isSent →
      Alike (.answered status (.json v)) (.answered status (.json v'))
  | samples {status : Nat} (ss ss' : List Sample) :
      Alike (.answered status (.samples ss)) (.answered status (.samples ss'))

namespace Service

/-! ### Answers -/

/-- The answer to an evaluation differs in the time that it took. -/
theorem alike_evaluationAnswer? (e : Evaluation) {elapsed elapsed' : Binary64}
    (h : (elapsed.mul millisecondsPerSecond).isFinite = true)
    (h' : (elapsed'.mul millisecondsPerSecond).isFinite = true) :
    (answerIf (evaluationAnswer? e elapsed)).Alike (answerIf (evaluationAnswer? e elapsed')) := by
  rw [evaluationAnswer?, evaluationAnswer?]
  cases errorsOf? e.merged.errors with
  | none => exact .refl _
  | some errors =>
      cases valuesOf? e.merged.values with
      | none => exact .refl _
      | some values =>
          cases e.results.mapM resultAnswer? with
          | none => exact .refl _
          | some results =>
              refine .json ?_ ?_
              · simp [Value.hide, Content.occasional]
              · simp [Value.isSent, Value.isCarried, Value.entriesCarried, Value.isWritable,
                  Value.entriesWritable, h, h']

/-- The answer with the rule of a template differs in its stamps. -/
theorem alike_template {rule rule' : Rule} (h : rule.unstamped = rule'.unstamped) :
    (answer rule.toValue.jsonSafe).Alike (answer rule'.toValue.jsonSafe) := by
  have hstamps : ∀ r : Rule, r.toValue.jsonSafe.hide Content.occasional =
      r.unstamped.toValue.jsonSafe.hide Content.occasional := by
    intro r
    simp [Rule.toValue, Rule.unstamped, Value.jsonSafe_mapping, Value.hide, Content.occasional]
  refine .json ?_ ?_
  · rw [hstamps rule, hstamps rule', h]
  · have hwritable : ∀ r : Rule, r.toValue.isWritable = r.unstamped.toValue.isWritable := by
      intro r
      simp [Rule.toValue, Rule.unstamped, Value.isWritable, Value.entriesWritable]
    rw [Value.isSent_jsonSafe, Value.isSent_jsonSafe, hwritable rule, hwritable rule', h]

/-! ### Work -/

/-- A service at another point of its life, with other metrics. -/
def withMetrics (s : Service) (log : MetricsLog) : Service := { s with metrics := log }

/-- Work done at two points of a service's life is alike: it ends alike, and the metrics grow
alike. -/
structure WorksAlike (log log' : MetricsLog) (w w' : Work) : Prop where
  ending : w.ending.Alike w'.ending
  metrics : GrowAlike log w.metrics log' w'.metrics

/-- Work that only answers is alike. -/
theorem worksAlike_answer (log log' : MetricsLog) (ending : Ending) :
    WorksAlike log log' ⟨ending, log⟩ ⟨ending, log'⟩ :=
  ⟨.refl ending, .refl log log'⟩

section Work

variable (s : Service) {log log' : MetricsLog} (hlog : log.service = log'.service)
  {o o' : Occasion}

theorem worksAlike_checkHealth (log log' : MetricsLog) (ho : o.IsMeasured) (ho' : o'.IsMeasured) :
    WorksAlike log log' ((s.withMetrics log).checkHealth o)
      ((s.withMetrics log').checkHealth o') := by
  cases hdependencies : s.dependencies with
  | ok dependencies =>
      simp only [checkHealth, withMetrics, hdependencies]
      refine ⟨.json ?_ ?_, growAlike_recordHealthCheck log log' _⟩
      · simp [Value.hide, Content.occasional]
      · simp [Value.isSent, Value.isCarried, Value.entriesCarried, Value.isWritable,
          Value.entriesWritable, ho.uptime, ho'.uptime]
  | error message =>
      simp only [checkHealth, withMetrics, hdependencies]
      exact ⟨.refl _, growAlike_recordHealthCheck log log' _⟩

include hlog

/-- The work on two requests that ask for the same run is alike. -/
theorem worksAlike_of_runOf?_eq (ho : o.IsMeasured) (ho' : o'.IsMeasured)
    {form form' : EvaluationForm}
    (hrun : (s.withMetrics log).runOf? o form = (s.withMetrics log').runOf? o' form') :
    WorksAlike log log' ((s.withMetrics log).evaluateRuleSet o form)
      ((s.withMetrics log').evaluateRuleSet o' form') := by
  rw [evaluateRuleSet_eq, evaluateRuleSet_eq, hrun]
  cases (s.withMetrics log').runOf? o' form' with
  | error failure => exact worksAlike_answer log log' (failed failure)
  | ok run =>
      cases hfinish : run.finish with
      | error fault =>
          simp only [hfinish]
          exact ⟨.refl _, growAlike_countNotifications hlog run.notified⟩
      | ok results =>
          have hrecorded :=
            growAlike_recordEvaluation hlog (.ofResults results) o.elapsed o'.elapsed
          have hnotified :=
            growAlike_countNotifications (hrecorded.service_eq hlog) run.notified
          have hcounted := growAlike_countEvent (hnotified.service_eq (hrecorded.service_eq hlog))
            "rule_set_evaluated"
          simp only [hfinish]
          exact ⟨alike_evaluationAnswer? _ ho.elapsed ho'.elapsed,
            (hrecorded.trans hnotified).trans hcounted⟩

theorem worksAlike_evaluateRuleSet (ho : o.IsMeasured) (ho' : o'.IsMeasured)
    (form : EvaluationForm) :
    WorksAlike log log' ((s.withMetrics log).evaluateRuleSet o form)
      ((s.withMetrics log').evaluateRuleSet o' form) :=
  s.worksAlike_of_runOf?_eq hlog ho ho' (runOf?_congr rfl o o' form)

theorem worksAlike_evaluateRule (form : RuleForm) :
    WorksAlike log log' ((s.withMetrics log).evaluateRule o form)
      ((s.withMetrics log').evaluateRule o' form) := by
  rw [evaluateRule_eq, evaluateRule_eq, runAlone?_congr o o' form]
  cases runAlone? o' form with
  | error failure => exact worksAlike_answer log log' (failed failure)
  | ok run =>
      have hnotified := growAlike_countNotifications hlog run.notified
      cases hfinish : run.finish with
      | error fault =>
          simp only [hfinish]
          exact ⟨.refl _, hnotified⟩
      | ok results =>
          have hcounted := growAlike_countEvent (hnotified.service_eq hlog) "rule_evaluated"
          simp only [hfinish]
          exact ⟨.refl _, hnotified.trans hcounted⟩

theorem worksAlike_buildTemplate (category name : String) (form : TemplateForm) :
    WorksAlike log log' ((s.withMetrics log).buildTemplate o category name form)
      ((s.withMetrics log').buildTemplate o' category name form) := by
  have hrule := Template.map_unstamped_instantiate? o.now o'.now (.text category) (.text name)
    form.positional form.named
  rw [buildTemplate, buildTemplate]
  cases h : Template.instantiate? o.now (.text category) (.text name) form.positional
      form.named with
  | error failure =>
      cases h' : Template.instantiate? o'.now (.text category) (.text name) form.positional
          form.named with
      | error failure' =>
          rw [h, h'] at hrule
          obtain rfl := Except.error.inj hrule
          exact worksAlike_answer log log' (failed failure)
      | ok rule' =>
          rw [h, h'] at hrule
          cases hrule
  | ok rule =>
      cases h' : Template.instantiate? o'.now (.text category) (.text name) form.positional
          form.named with
      | error failure' =>
          rw [h, h'] at hrule
          cases hrule
      | ok rule' =>
          rw [h, h'] at hrule
          exact ⟨alike_template (Except.ok.inj hrule), growAlike_countEvent hlog _⟩

omit hlog in
/-- Work on a body of a form is alike when it is for every form that fits. -/
theorem worksAlike_withForm {α : Type} (log log' : MetricsLog) (r : Request)
    (read : List (String × Value) → Form.Checked α) (instead : Option α) {work work' : α → Work}
    (h : ∀ form, WorksAlike log log' (work form) (work' form)) :
    WorksAlike log log' ((s.withMetrics log).withForm r read instead work)
      ((s.withMetrics log').withForm r read instead work') := by
  rw [withForm, withForm]
  cases Form.ofBody read instead r.body with
  | ok form => exact h form
  | error refused => exact worksAlike_answer log log' (misformed refused)

/-- **The work on a request is alike** at any two points of a service's life. -/
theorem worksAlike_work (ho : o.IsMeasured) (ho' : o'.IsMeasured) (r : Request) :
    WorksAlike log log' ((s.withMetrics log).work o r) ((s.withMetrics log').work o' r) := by
  rw [work, work]
  cases r.intendedMethod? with
  | some method => exact worksAlike_answer log log' _
  | none =>
      simp only [direct]
      have hlocal : (s.withMetrics log).isLocal = (s.withMetrics log').isLocal := rfl
      rw [hlocal]
      cases Destination.of (s.withMetrics log').isLocal r.path r.verb with
      | methodNotAllowed => exact worksAlike_answer log log' _
      | elsewhere => exact worksAlike_answer log log' _
      | notFound => exact worksAlike_answer log log' _
      | reached route =>
          cases route with
          | root => exact worksAlike_answer log log' _
          | health => exact s.worksAlike_checkHealth log log' ho ho'
          | metrics => exact ⟨.samples _ _, .refl log log'⟩
          | evaluateRuleSet =>
              exact s.worksAlike_withForm log log' r _ _
                fun form => s.worksAlike_evaluateRuleSet hlog ho ho' form
          | evaluateRule =>
              exact s.worksAlike_withForm log log' r _ _
                fun form => s.worksAlike_evaluateRule hlog form
          | templates => exact worksAlike_answer log log' _
          | template category name =>
              exact s.worksAlike_withForm log log' r _ _
                fun form => s.worksAlike_buildTemplate hlog category name form
          | page => exact worksAlike_answer log log' _

end Work

/-! ### Responses -/

/-- The id of a request shows only where the request brought it. -/
theorem compared_congr (o o' : Occasion) (r : Request) (status : Nat) {content content' : Content}
    (h : content.hide Content.occasional = content'.hide Content.occasional) :
    Response.compared r ⟨status, some (requestIdOf o r), content⟩ =
      Response.compared r ⟨status, some (requestIdOf o' r), content'⟩ := by
  rw [Response.compared, Response.compared]
  cases hid : r.header? Request.requestIdHeader with
  | some id => simp only [requestIdOf, hid, Option.getD_some, h]
  | none =>
      have hnamed : content.hide (Content.requestIdField :: Content.occasional) =
          content'.hide (Content.requestIdField :: Content.occasional) := by
        rw [Content.hide_cons, Content.hide_cons _ _ content', h]
      simp only [hnamed, Option.map_some]

/-- In the report of a refusal, too, the id shows only where the request brought it. -/
theorem compared_reportContent (o o' : Occasion) (r : Request) (status : Nat) (refusal : Refusal) :
    Response.compared r ⟨status, some (requestIdOf o r),
        .json (reportContent refusal (requestIdOf o r))⟩ =
      Response.compared r ⟨status, some (requestIdOf o' r),
        .json (reportContent refusal (requestIdOf o' r))⟩ := by
  rw [Response.compared, Response.compared]
  cases hid : r.header? Request.requestIdHeader with
  | some id => simp only [requestIdOf, hid, Option.getD_some]
  | none =>
      simp [Content.hide, Value.hide, Content.requestIdField, Content.occasional, reportContent]

/-- The response to a request after the work on it. -/
def respondTo (s : Service) (o : Occasion) (r : Request) (w : Work) : Service × Response :=
  match w.ending with
  | .unexpected => s.respondInternal w.metrics
  | .answered status content => s.respondWith o r (requestIdOf o r) w.metrics status content
  | .refused refusal =>
    s.respondWith o r (requestIdOf o r) (w.metrics.recordError (.text refusal.code) .null)
      refusal.family.status (.json (reportContent refusal (requestIdOf o r)))

theorem respond_eq_respondTo (s : Service) (o : Occasion) (r : Request) :
    s.respond o r = s.respondTo o r (s.work o r) := rfl

/-- Responses at two points of a service's life are alike: what is compared of them is the same, and
the metrics grow alike. -/
structure ResponsesAlike (s : Service) (log log' : MetricsLog) (r : Request)
    (x x' : Service × Response) : Prop where
  compared : x.2.compared r = x'.2.compared r
  metrics : ∃ after after', x.1 = s.withMetrics after ∧ x'.1 = s.withMetrics after' ∧
    GrowAlike log after log' after'

section Responses

variable (s : Service) {log after log' after' : MetricsLog} (hlog : log.service = log'.service)
  (hgrow : GrowAlike log after log' after') {o o' : Occasion}

include hlog hgrow

theorem responsesAlike_respondInternal (r : Request) :
    ResponsesAlike s log log' r ((s.withMetrics log).respondInternal after)
      ((s.withMetrics log').respondInternal after') :=
  ⟨rfl, _, _, rfl, rfl, hgrow.trans (growAlike_recordError (hgrow.service_eq hlog) _ _)⟩

theorem responsesAlike_respondWith (r : Request) (status : Nat) {content content' : Content}
    (hcarries : carries content = carries content')
    (hcompared : Response.compared r ⟨status, some (requestIdOf o r), content⟩ =
      Response.compared r ⟨status, some (requestIdOf o' r), content'⟩) :
    ResponsesAlike s log log' r
      ((s.withMetrics log).respondWith o r (requestIdOf o r) after status content)
      ((s.withMetrics log').respondWith o' r (requestIdOf o' r) after' status content') := by
  rw [respondWith, respondWith, hcarries]
  split
  · exact ⟨hcompared, _, _, rfl, rfl, hgrow.trans (growAlike_recordHttpRequest _ _ _ _ _ _ _)⟩
  · exact responsesAlike_respondInternal s hlog hgrow r

/-- Work that ends alike is responded to alike. -/
theorem responsesAlike_respondTo (r : Request) {ending ending' : Ending} (h : ending.Alike ending') :
    ResponsesAlike s log log' r ((s.withMetrics log).respondTo o r ⟨ending, after⟩)
      ((s.withMetrics log').respondTo o' r ⟨ending', after'⟩) := by
  cases h with
  | json hhide hcarried =>
      exact responsesAlike_respondWith s hlog hgrow r _ hcarried
        (compared_congr o o' r _ (congrArg Content.json hhide))
  | samples ss ss' =>
      exact responsesAlike_respondWith s hlog hgrow r _ rfl (compared_congr o o' r _ rfl)
  | refl ending =>
      cases ending with
      | unexpected => exact responsesAlike_respondInternal s hlog hgrow r
      | answered status content =>
          exact responsesAlike_respondWith s hlog hgrow r _ rfl (compared_congr o o' r _ rfl)
      | refused refusal =>
          have herror := growAlike_recordError (hgrow.service_eq hlog) (.text refusal.code) .null
          refine responsesAlike_respondWith s hlog (hgrow.trans herror) r _ ?_
            (compared_reportContent o o' r _ refusal)
          rw [carries_reportContent, carries_reportContent]

end Responses

/-- **A request is responded to alike** at any two points of a service's life, on any two
occasions. -/
theorem respond_alike (s : Service) {log log' : MetricsLog} (hlog : log.service = log'.service)
    {o o' : Occasion} (ho : o.IsMeasured) (ho' : o'.IsMeasured) (r : Request) :
    ResponsesAlike s log log' r ((s.withMetrics log).respond o r)
      ((s.withMetrics log').respond o' r) := by
  have hwork := s.worksAlike_work hlog ho ho' r
  rw [respond_eq_respondTo, respond_eq_respondTo]
  exact responsesAlike_respondTo s hlog hwork.metrics r hwork.ending

end Service

/-! ### Sessions -/

namespace Session

open Service

/-- While a request is served, its id is at hand. -/
theorem requestId_serving (session : Session) (o : Occasion) (r : Request) :
    (session.serving o r).requestId = .text (requestIdOf o r) := by
  have hnamed : (session.correlation.setRequest (.text o.freshId)
      (r.headerValue Request.requestIdHeader)).requestId = .text (requestIdOf o r) := by
    rw [Correlation.setRequest, Request.headerValue, requestIdOf]
    cases r.header? Request.requestIdHeader with
    | none => rfl
    | some id => rfl
  rw [serving]
  split
  · rw [Correlation.setTenant]
    split
    · exact hnamed
    · exact hnamed
  · exact hnamed

/-- **The ids that are kept do not show**: a request is responded to as by the service alone. -/
theorem respond_eq (session : Session) (o : Occasion) (r : Request) :
    (session.respond o r).1.service = (session.service.respond o r).1 ∧
      (session.respond o r).2 = (session.service.respond o r).2 := by
  have hreport : ∀ refusal, reportContent refusal (session.serving o r) =
      Service.reportContent refusal (requestIdOf o r) := by
    intro refusal
    rw [reportContent, requestId_serving, Service.reportContent]
  rw [respond, Service.respond]
  cases (session.service.work o r).ending with
  | answered status content => exact ⟨rfl, rfl⟩
  | refused refusal =>
      dsimp only
      rw [hreport]
      exact ⟨rfl, rfl⟩
  | unexpected => exact ⟨rfl, rfl⟩

/-- What a request adds to the counters of a service that has served nothing. -/
def share (s : Service) (o : Occasion) (r : Request) : List MetricEntry :=
  ((fresh s).respond o r).1.service.metrics.counters

section Steps

variable {s : Service} {o : Occasion} (ho : o.IsMeasured)

include ho

/-- **A request is served at any point of a session as at its beginning**: it is responded to alike,
and it adds the same counts to the counters. -/
theorem respond_alike_fresh {session : Session} {log : MetricsLog}
    (hservice : session.service = s.withMetrics log) (hlog : log.service = s.metrics.service)
    {o' : Occasion} (ho' : o'.IsMeasured) (r : Request) :
    (session.respond o' r).2.compared r = ((fresh s).respond o r).2.compared r ∧
      (∀ e ∈ share s o r, e.IsCount) ∧
      ∃ after, (session.respond o' r).1.service = s.withMetrics after ∧
        log.Grows after (share s o r) := by
  obtain ⟨hstate, hresponse⟩ := session.respond_eq o' r
  obtain ⟨hfresh, hfreshResponse⟩ := (fresh s).respond_eq o r
  have hname : log.service = (MetricsLog.ofService s.metrics.service).service := hlog
  obtain ⟨hcompared, after, after', hafter, hafter', added, hcounts, hgrows, hgrows'⟩ :=
    s.respond_alike hname ho' ho r
  have hshare : share s o r = added := by
    rw [share, hfresh]
    change ((s.withMetrics (.ofService s.metrics.service)).respond o r).1.metrics.counters = added
    rw [hafter']
    exact hgrows'.counters
  rw [hresponse, hfreshResponse, hstate, hshare, hservice]
  exact ⟨hcompared, hcounts, after, hafter, hgrows⟩

/-- **So are requests one after the other.** -/
theorem respondAll_alike_fresh {served : List (Occasion × Request)}
    (h : ∀ q ∈ served, q.1.IsMeasured) (session : Session) {log : MetricsLog}
    (hservice : session.service = s.withMetrics log) (hlog : log.service = s.metrics.service) :
    List.Forall₂ (fun q response =>
      response.compared q.2 = ((fresh s).respond o q.2).2.compared q.2)
        served (session.respondAll served).2 ∧
      (∀ e ∈ served.flatMap (fun q => share s o q.2), e.IsCount) ∧
      ∃ last, (session.respondAll served).1.service = s.withMetrics last ∧
        log.Grows last (served.flatMap fun q => share s o q.2) := by
  induction served generalizing session log with
  | nil =>
      refine ⟨.nil, ?_, log, hservice, rfl, (List.append_nil _).symm⟩
      intro e he
      cases he
  | cons q rest ih =>
      obtain ⟨o', r⟩ := q
      obtain ⟨ho', hrest⟩ := List.forall_mem_cons.mp h
      obtain ⟨hcompared, hcounts, after, hafter, hgrows⟩ :=
        respond_alike_fresh ho hservice hlog ho' r
      obtain ⟨hcomparedRest, hcountsRest, last, hlast, hgrowsRest⟩ :=
        ih hrest _ hafter (hgrows.service.trans hlog)
      rw [respondAll, List.flatMap_cons]
      refine ⟨.cons hcompared hcomparedRest, ?_, last, hlast, ?_, ?_⟩
      · intro e he
        rcases List.mem_append.mp he with he | he
        · exact hcounts e he
        · exact hcountsRest e he
      · exact hgrowsRest.service.trans hgrows.service
      · rw [hgrowsRest.counters, hgrows.counters, List.append_assoc]

end Steps

end Session

/-- **Requests are served independently, and counted in any order.** Each request of a session is
responded to as it would be by a service that has served nothing, on any other occasion, whatever
requests were served before it and however they ended: of the responses the same status, the same
content and the same id are compared. After the same requests in another order, on other occasions,
the counters show the same: the same amounts were added to each, and they sum up to one number. -/
theorem Session.respondAll_stateless (s : Service) {o : Occasion} (ho : o.IsMeasured)
    {served other : List (Occasion × Request)} (h : ∀ q ∈ served, q.1.IsMeasured)
    (hother : ∀ q ∈ other, q.1.IsMeasured)
    (hperm : (served.map Prod.snd).Perm (other.map Prod.snd)) :
    List.Forall₂ (fun q response =>
      response.compared q.2 = ((Session.fresh s).respond o q.2).2.compared q.2)
        served ((Session.fresh s).respondAll served).2 ∧
    List.Forall₂ (fun q response =>
      response.compared q.2 = ((Session.fresh s).respond o q.2).2.compared q.2)
        other ((Session.fresh s).respondAll other).2 ∧
    ∃ last last',
      ((Session.fresh s).respondAll served).1.service = s.withMetrics last ∧
      ((Session.fresh s).respondAll other).1.service = s.withMetrics last' ∧
      ∀ metric, metric.isHistogram = false → ∀ labels,
        (last.amounts metric labels).Perm (last'.amounts metric labels) ∧
        (∃ n, last.CountsTo metric labels n ∧ last'.CountsTo metric labels n) ∧
        (metric ≠ .rulesMatched → last.total metric labels = last'.total metric labels) := by
  obtain ⟨hresponses, hcounts, last, hlast, hgrows⟩ :=
    respondAll_alike_fresh (s := s) ho h (.fresh s) rfl rfl
  obtain ⟨hresponses', -, last', hlast', hgrows'⟩ :=
    respondAll_alike_fresh (s := s) ho hother (.fresh s) rfl rfl
  refine ⟨hresponses, hresponses', last, last', hlast, hlast', fun metric hcounter labels => ?_⟩
  have hbegin : (MetricsLog.ofService s.metrics.service).counters = [] := rfl
  have hcounters := hgrows.counters
  have hcounters' := hgrows'.counters
  rw [hbegin, List.nil_append] at hcounters hcounters'
  refine MetricsLog.counters_alike_of_perm ?_ ?_ hcounter labels
  · rw [hcounters]
    exact hcounts
  · have hshares := hperm.flatMap_right (share s o)
    rw [List.flatMap_map, List.flatMap_map] at hshares
    rw [hcounters, hcounters']
    exact hshares

/-- A request with an id of its own for the health of the service. -/
def healthRequest : Request where
  method := "GET"
  target := "/health"
  headers := [("X-Request-Id", "health-1"), ("X-Tenant-Id", "tenant-1")]
  body := none

/-- An occasion on which everything takes no time. -/
def secondOccasion : Occasion := ⟨.epoch, .zero, .zero, "second"⟩

theorem isMeasured_firstOccasion : firstOccasion.IsMeasured :=
  ⟨by decide +kernel, by decide +kernel⟩

theorem isMeasured_secondOccasion : secondOccasion.IsMeasured :=
  ⟨by decide +kernel, by decide +kernel⟩

/-- A request that ends unexpectedly, one for the health of the service and one for an evaluation,
in both orders. -/
theorem respondAll_stateless_reversed :
    let requests := [reportingRequest (.int 5), healthRequest, reportingRequest (.text "Late")]
    let served := requests.map fun r => (firstOccasion, r)
    let other := requests.reverse.map fun r => (secondOccasion, r)
    firstOccasion.IsMeasured ∧ secondOccasion.IsMeasured ∧
    (∀ q ∈ served, q.1.IsMeasured) ∧ (∀ q ∈ other, q.1.IsMeasured) ∧
    (served.map Prod.snd).Perm (other.map Prod.snd) ∧
    List.Forall₂ (fun q response =>
      response.compared q.2 =
        ((Session.fresh freshService).respond firstOccasion q.2).2.compared q.2)
        other ((Session.fresh freshService).respondAll other).2 := by
  intro requests served other
  have hfirst : firstOccasion.IsMeasured := ⟨by decide +kernel, by decide +kernel⟩
  have hsecond : secondOccasion.IsMeasured := ⟨by decide +kernel, by decide +kernel⟩
  have hserved : ∀ q ∈ served, q.1.IsMeasured := by
    intro q hq
    obtain ⟨r, -, rfl⟩ := List.mem_map.mp hq
    exact hfirst
  have hother : ∀ q ∈ other, q.1.IsMeasured := by
    intro q hq
    obtain ⟨r, -, rfl⟩ := List.mem_map.mp hq
    exact hsecond
  have hperm : (served.map Prod.snd).Perm (other.map Prod.snd) := by
    rw [List.map_map, List.map_map]
    exact (List.reverse_perm requests).symm.map _
  obtain ⟨-, hresponses, -⟩ :=
    Session.respondAll_stateless freshService hfirst hserved hother hperm
  exact ⟨hfirst, hsecond, hserved, hother, hperm, hresponses⟩

end Rulebook
