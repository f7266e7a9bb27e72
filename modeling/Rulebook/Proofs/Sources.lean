import Rulebook.Proofs.Stateless

/-!
# Where the Rules of a Request Come From

A request for the evaluation of a rule set brings rules along, or it leaves them to the tenant's
configuration, which stands in its context. The two sources are treated differently. Rules that are
brought along may not be more than the limit, and all of them have to be read. Of the definitions in
the configuration, those that cannot be read are passed over, and the limit is not looked at.

So bringing along the readable definitions of the configuration, where the limit allows it, is the
same as bringing nothing.

## Main definitions

* `Rule.isReadable`: can a definition be read?
* `EvaluationForm.config`: the tenant's configuration in a request.
* `Rule.DealsInTexts`: the actions of a rule deal in texts.
* `Rule.HasAnswer`: a rule has a result in a context, and the result can be answered.
* `Request.withRules`: a request that brings rules along.

## Main results

* `Rule.mapM_filter_isReadable`: reading the readable definitions is passing over the others.
* `Service.rulesOf?_of_brought`, `Service.rulesOf?_of_configured`: the rules of the two sources.
* `respond_limit`: where the limit on the number of rules holds.
* `respond_withRules`: bringing the readable definitions along is the same as bringing nothing.
-/

namespace Rulebook

/-! ### Definitions that can be read -/

namespace Rule

/-- Can a definition be read? -/
def isReadable (now : Timestamp) (v : Value) : Bool := (ofValue? now v).toOption.isSome

theorem isReadable_eq_true_iff {now : Timestamp} {v : Value} :
    isReadable now v = true ↔ ∃ r, ofValue? now v = .ok r := by
  rw [isReadable]
  cases ofValue? now v with
  | error failure => simp [Except.toOption]
  | ok r => simp [Except.toOption]

/-- Whether a definition can be read does not depend on the moment. -/
theorem isReadable_congr (now now' : Timestamp) : isReadable now = isReadable now' := by
  have hunstamped : ∀ (moment : Timestamp) (v : Value),
      isReadable moment v = ((ofValue? moment v).map unstamped).toOption.isSome := by
    intro moment v
    rw [toOption_map, Option.isSome_map, isReadable]
  funext v
  rw [hunstamped now, hunstamped now', map_unstamped_ofValue? now now']

/-- Only a mapping can be read. -/
theorem isMapping_of_isReadable {now : Timestamp} {v : Value} (h : isReadable now v = true) :
    v.isMapping = true := by
  obtain ⟨r, hr⟩ := isReadable_eq_true_iff.mp h
  obtain ⟨entries, rfl, -⟩ := ofValue?_eq_ok_iff.mp hr
  rfl

/-- **Reading the readable definitions is passing over the others.** -/
theorem mapM_filter_isReadable (now now' : Timestamp) (definitions : List Value) :
    (definitions.filter (isReadable now)).mapM (ofValue? now') =
      .ok (readable now' definitions) := by
  rw [isReadable_congr now now']
  induction definitions with
  | nil => rfl
  | cons v rest ih =>
      rw [readable, List.filter_cons, List.filterMap_cons, isReadable]
      cases hv : ofValue? now' v with
      | error failure => exact ih
      | ok r =>
          have hsome : (Except.ok r : Except Failure Rule).toOption.isSome = true := rfl
          rw [if_pos hsome, List.mapM_cons, hv, ih]
          rfl

end Rule

/-! ### The two sources -/

/-- The tenant's configuration in a request; `null` where there is none. -/
def EvaluationForm.config (form : EvaluationForm) : Value :=
  (Value.lookup "tenantConfig" form.context).getD .null

/-- The definitions in a configuration that is a mapping. -/
theorem tenantDefinitions?_of_lookup {config : List (String × Value)} {definitions : List Value}
    (h : Value.lookup "rules" config = some (.list definitions)) :
    tenantDefinitions? (.mapping config) = .ok definitions := by
  cases config with
  | nil => cases h
  | cons e rest =>
      have hgiven : (Value.mapping (e :: rest)).orElse (.mapping []) = .mapping (e :: rest) := rfl
      simp only [tenantDefinitions?, hgiven, h]

namespace Service

variable {s : Service} {o : Occasion} {form : EvaluationForm}

/-- More rules than the limit are refused, whatever they are. -/
theorem rulesOf?_of_tooMany (h : s.settings.maxRules.toNat < form.rules.length) :
    s.rulesOf? o form =
      .error (.refused (.tooManyRules form.rules.length s.settings.maxRules.toNat)) := by
  rw [rulesOf?, parseRules?]
  dsimp only
  rw [if_pos h]
  rfl

/-- **Rules that are brought along** are read one by one, if there are not more than the limit. -/
theorem rulesOf?_of_brought (hbrought : form.rules ≠ [])
    (h : form.rules.length ≤ s.settings.maxRules.toNat) :
    s.rulesOf? o form = form.rules.mapM (Rule.ofValue? o.now) := by
  have hempty : form.rules.isEmpty = false := List.isEmpty_eq_false_iff.mpr hbrought
  rw [rulesOf?, parseRules?]
  dsimp only
  rw [if_neg (Nat.not_lt.mpr h), hempty]
  exact bind_pure _

/-- **Rules that are left to the tenant's configuration** are those that can be read there, however
many there are. -/
theorem rulesOf?_of_configured (hnone : form.rules = []) :
    s.rulesOf? o form = Fault.orFail (loadRules? o.now form.config) := by
  rw [rulesOf?, parseRules?, hnone]
  rfl

/-- The rules of a request whose configuration has a list of definitions. -/
theorem rulesOf?_of_definitions {definitions : List Value} (hnone : form.rules = [])
    (h : tenantDefinitions? form.config = .ok definitions) :
    s.rulesOf? o form = .ok (readable o.now definitions) := by
  rw [rulesOf?_of_configured hnone, loadRules?, h]
  rfl

/-- **Readable definitions give the same rules from either source.** -/
theorem rulesOf?_withReadable {definitions : List Value} (now : Timestamp)
    (hconfig : tenantDefinitions? form.config = .ok definitions)
    (hlimit : (definitions.filter (Rule.isReadable now)).length ≤ s.settings.maxRules.toNat) :
    s.rulesOf? o { form with rules := definitions.filter (Rule.isReadable now) } =
      .ok (readable o.now definitions) := by
  by_cases hnone : definitions.filter (Rule.isReadable now) = []
  · exact rulesOf?_of_definitions hnone hconfig
  · rw [rulesOf?_of_brought hnone hlimit]
    exact Rule.mapM_filter_isReadable now o.now definitions

end Service

/-! ### The limit -/

/-- A rule **deals in texts** in a context: the actions that it carries out there do. -/
def Rule.DealsInTexts (context : Value) (r : Rule) : Prop :=
  ∀ result, r.evaluate (some .silent) context = .ok result →
    ∀ i ∈ result.actions, i.isTextual context = true

/-- A rule **has an answer** in a context: it has a result there, its actions deal in texts, and
what it came to can be written. -/
structure Rule.HasAnswer (context : Value) (r : Rule) : Prop where
  labelled : r.IsLabelled context
  textual : r.DealsInTexts context
  writable : ∀ result, r.evaluate (some .silent) context = .ok result → result.isWritable = true

namespace Service

variable {s : Service} {o : Occasion} {r : Request} {form : EvaluationForm}

/-- The answer to an evaluation has one answer for each result. -/
theorem exists_results_of_evaluationAnswer? {e : Evaluation} {elapsed : Binary64} {v : Value}
    (h : evaluationAnswer? e elapsed = some v) :
    ∃ fields answers, v = .mapping fields ∧ Value.lookup "results" fields = some (.list answers) ∧
      e.results.mapM resultAnswer? = some answers := by
  obtain ⟨errors, -, hrest⟩ := Option.bind_eq_some_iff.mp h
  obtain ⟨values, -, hrest⟩ := Option.bind_eq_some_iff.mp hrest
  obtain ⟨answers, hanswers, hanswer⟩ := Option.bind_eq_some_iff.mp hrest
  obtain rfl := Option.some.inj hanswer
  exact ⟨_, answers, rfl, rfl, hanswers⟩

/-- What the evaluation of a rule set is answered with. -/
theorem exists_evaluated_of_status_respond (hverb : r.verb = "POST")
    (hpath : r.path = "/rules/evaluate")
    (hbody : Form.ofBody Form.evaluation none r.body = .ok form)
    (h : (s.respond o r).2.status = 200) :
    ∃ results v, s.evaluated o form = .ok results ∧
      evaluationAnswer? (.ofResults results) o.elapsed = some v ∧
      (s.respond o r).2.content = .json v := by
  obtain ⟨content, hending, hcontent, -⟩ := answered_of_status_respond h
  rw [work_evaluateRuleSet hverb hpath, withForm, hbody] at hending
  dsimp only at hending
  rw [evaluateRuleSet_eq] at hending
  cases hrun : s.runOf? o form with
  | error failure =>
      rw [hrun] at hending
      cases failure <;> cases hending
  | ok run =>
      rw [hrun] at hending
      dsimp only at hending
      cases hfinish : run.finish with
      | error fault =>
          rw [hfinish] at hending
          cases hending
      | ok results =>
          rw [hfinish] at hending
          dsimp only at hending
          cases hanswer : evaluationAnswer? (.ofResults results) o.elapsed with
          | none =>
              rw [hanswer] at hending
              cases hending
          | some v =>
              rw [hanswer] at hending
              obtain ⟨-, rfl⟩ := Ending.answered.inj hending
              exact ⟨results, v, resultsOf?_eq_ok_iff.mpr ⟨run, hrun, hfinish⟩, hanswer, hcontent⟩

/-- A request with no event that is evaluated to the end has one result for each rule. -/
theorem length_of_evaluated {rules : List Rule} {results : List Result}
    (hrules : s.rulesOf? o form = .ok rules) (hevaluated : s.evaluated o form = .ok results)
    (hevent : form.trigger.isTruthy = false)
    (hstop : form.stop.getD s.settings.stopOnFirstMatch = false) :
    results.length = rules.length := by
  obtain ⟨run, hrun, hfinish⟩ := resultsOf?_eq_ok_iff.mp hevaluated
  have hall : Rule.registeredFor form.trigger rules = rules := by
    rw [Rule.registeredFor, hevent]
    rfl
  rw [runOf?, hrules, hstop] at hrun
  dsimp only [Except.map] at hrun
  rw [hall] at hrun
  obtain rfl := Except.ok.inj hrun
  have hread := isRead_of_rulesOf? hrules
  by_cases hlabelled : ∀ rule ∈ rules, rule.IsLabelled (.mapping form.context)
  · obtain ⟨full, hfull, hresults⟩ := evaluateAll_full (some .silent) hread hlabelled
    rw [hfull] at hfinish
    obtain rfl : full = results := Except.ok.inj hfinish
    rw [← hresults.length_eq, Rule.arranged, List.length_mergeSort]
  · rw [finish_full_of_not_isLabelled (some .silent) hread hlabelled] at hfinish
    cases hfinish

/-- Rules that have answers are evaluated and answered, wherever they come from. -/
theorem status_respond_of_hasAnswer {rules : List Rule} (hverb : r.verb = "POST")
    (hpath : r.path = "/rules/evaluate")
    (hbody : Form.ofBody Form.evaluation none r.body = .ok form)
    (helapsed : (o.elapsed.mul millisecondsPerSecond).isFinite = true)
    (hrules : s.rulesOf? o form = .ok rules)
    (hanswers : ∀ rule ∈ rules, rule.HasAnswer (.mapping form.context))
    (hcount : (Value.int rules.length).isWritable = true) :
    (s.respond o r).2.status = 200 := by
  have hmem : ∀ rule ∈ Rule.registeredFor form.trigger rules, rule ∈ rules :=
    fun rule hrule => Rule.mem_of_mem_registeredFor hrule
  obtain ⟨results, hrun, hresults⟩ := evaluateAll_through
    (form.stop.getD s.settings.stopOnFirstMatch) (some .silent)
    (fun rule hrule => isRead_of_rulesOf? hrules rule (hmem rule hrule))
    (fun rule hrule => (hanswers rule (hmem rule hrule)).labelled)
  have hevaluated : s.evaluated o form = .ok results := by
    refine resultsOf?_eq_ok_iff.mpr ⟨_, ?_, congrArg Run.finish hrun⟩
    rw [runOf?, hrules]
    rfl
  have hof : ∀ result ∈ results, ∃ rule : Rule, rule.HasAnswer (.mapping form.context) ∧
      rule.evaluate (some .silent) (.mapping form.context) = .ok result := by
    intro result hresult
    obtain ⟨rule, hrule, hevaluate⟩ := exists_of_mem_forall₂ hresults hresult
    have hregistered := List.mem_mergeSort.mp (List.mem_of_mem_take hrule)
    exact ⟨rule, hanswers rule (hmem rule hregistered), hevaluate⟩
  have hasked : s.Asks o r (.mapping form.context) (.ok results) :=
    hevaluated ▸ .ruleSet hverb hpath hbody
  rcases (hasked.ends helapsed).spoils_or_endsWell with ⟨hspoils, -⟩ | ⟨-, hwell⟩
  · cases hspoils with
    | action hresult hi hnot =>
        obtain ⟨rule, hanswer, hevaluate⟩ := hof _ hresult
        rw [hanswer.textual _ hevaluate _ hi] at hnot
        cases hnot
    | long hlong =>
        have hfew : results.length ≤ rules.length := by
          rw [← hresults.length_eq, List.length_take]
          refine (Nat.min_le_right _ _).trans ?_
          rw [Rule.arranged, List.length_mergeSort]
          exact Rule.length_registeredFor_le form.trigger rules
        have hall : results.all (·.isWritable) = true := by
          refine List.all_eq_true.mpr fun result hresult => ?_
          obtain ⟨rule, hanswer, hevaluate⟩ := hof result hresult
          exact hanswer.writable result hevaluate
        rw [Evaluation.isWritable, Evaluation.ofResults, Merged.isWritable_matched hcount hfew,
          hall] at hlong
        cases hlong
  · cases hwell with
    | answered hstatus => exact hstatus

/-- The rules of a tenant's configuration are not refused. -/
theorem evaluated_ne_refused (hnone : form.rules = []) (refusal : Refusal) :
    s.evaluated o form ≠ .error (.refused refusal) := by
  rw [evaluated, resultsOf?, runOf?, rulesOf?_of_configured hnone]
  intro h
  cases hloaded : loadRules? o.now form.config with
  | error f =>
      rw [hloaded] at h
      cases h
  | ok rules =>
      rw [hloaded] at h
      dsimp only [Fault.orFail, Except.map, Except.mapError, bind, Except.bind] at h
      split at h
      · cases h
      · cases h

/-- The report that there are too many rules is sent when their number can be written. -/
theorem isSent_details_tooManyRules {given limit : ℕ} (hmany : limit < given)
    (hwritable : (Value.int given).isWritable = true) :
    (Value.mapping (Refusal.tooManyRules given limit).details).isSent = true := by
  have hlimit : (Value.int limit).isWritable = true := by
    rw [Value.isWritable_int_iff, Int.natAbs_natCast] at hwritable ⊢
    exact hmany.trans hwritable
  simp only [Value.isSent, Refusal.details, Value.isCarried, Value.entriesCarried,
    Value.isWritable.eq_3, Value.entriesWritable, hwritable, hlimit, Bool.and_self]

/-- A request that leaves its rules to the tenant's configuration is not refused. -/
theorem status_respond_of_configured (hverb : r.verb = "POST") (hpath : r.path = "/rules/evaluate")
    (hbody : Form.ofBody Form.evaluation none r.body = .ok form)
    (helapsed : (o.elapsed.mul millisecondsPerSecond).isFinite = true) (hnone : form.rules = []) :
    (s.respond o r).2.status ≠ 400 := by
  have hasked : s.Asks o r (.mapping form.context) (s.evaluated o form) :=
    .ruleSet hverb hpath hbody
  rcases (hasked.ends helapsed).spoils_or_endsWell with ⟨-, hstatus⟩ | ⟨-, hwell⟩
  · rw [hstatus]
    decide
  · generalize hevaluated : s.evaluated o form = evaluated at hwell
    cases hwell with
    | answered hstatus =>
        rw [hstatus]
        decide
    | @reported refusal _ _ _ => exact absurd hevaluated (evaluated_ne_refused hnone refusal)

end Service

/-- **Where the limit on the number of rules holds.** A request for the evaluation of a rule set
that brings more rules than the limit is refused, and the report says so; it is sent if the number
can be written. If the request is answered, the rules that were handed on are the ones it brought,
and not more than the limit; with no event and without a stop the answer has a result for each of
them. But a request that brings no rules is never refused: the rules handed on are all that can be
read in the tenant's configuration, and if each has an answer it is answered, however many they are
that can be counted. -/
theorem respond_limit {s : Service} {o : Occasion} {r : Request} {form : EvaluationForm}
    (hverb : r.verb = "POST") (hpath : r.path = "/rules/evaluate")
    (hbody : Form.ofBody Form.evaluation none r.body = .ok form)
    (helapsed : (o.elapsed.mul Service.millisecondsPerSecond).isFinite = true) :
    let limit := s.settings.maxRules.toNat
    let refusal := Refusal.tooManyRules form.rules.length limit
    (limit < form.rules.length →
      (s.work o r).ending = .refused refusal ∧ refusal.code = "VALIDATION_ERROR" ∧
      ((Value.int form.rules.length).isWritable = true →
        (s.respond o r).2.status = 400 ∧
        (s.respond o r).2.content =
          .json (Service.reportContent refusal (Service.requestIdOf o r)))) ∧
    ((s.respond o r).2.status = 200 →
      ∃ rules fields answers, s.rulesOf? o form = .ok rules ∧
        (form.rules ≠ [] → rules.length = form.rules.length ∧ rules.length ≤ limit) ∧
        (s.respond o r).2.content = .json (.mapping fields) ∧
        Value.lookup "results" fields = some (.list answers) ∧
        (form.trigger.isTruthy = false → form.stop.getD s.settings.stopOnFirstMatch = false →
          answers.length = rules.length)) ∧
    (form.rules = [] →
      (s.respond o r).2.status ≠ 400 ∧
      ∀ definitions, tenantDefinitions? form.config = .ok definitions →
        s.rulesOf? o form = .ok (readable o.now definitions) ∧
        ((∀ rule ∈ readable o.now definitions, rule.HasAnswer (.mapping form.context)) →
          (Value.int (readable o.now definitions).length).isWritable = true →
          (s.respond o r).2.status = 200)) := by
  intro limit refusal
  refine ⟨fun hmany => ?_, fun hstatus => ?_, fun hnone => ⟨?_, fun definitions hdefinitions => ?_⟩⟩
  · have hending : (s.work o r).ending = .refused refusal := by
      rw [Service.work_evaluateRuleSet hverb hpath, Service.withForm, hbody]
      dsimp only
      rw [Service.evaluateRuleSet, Service.rulesOf?_of_tooMany hmany]
      rfl
    refine ⟨hending, rfl, fun hwritable => ?_⟩
    exact Service.respond_of_refused hending (Service.isSent_details_tooManyRules hmany hwritable)
  · obtain ⟨results, v, hevaluated, hanswer, hcontent⟩ :=
      Service.exists_evaluated_of_status_respond hverb hpath hbody hstatus
    obtain ⟨run, hrun, -⟩ := Service.resultsOf?_eq_ok_iff.mp hevaluated
    obtain ⟨rules, hrules, -⟩ := map_eq_ok_iff.mp hrun
    obtain ⟨fields, answers, rfl, hfield, hanswers⟩ :=
      Service.exists_results_of_evaluationAnswer? hanswer
    refine ⟨rules, fields, answers, hrules, fun hbrought => ?_, hcontent, hfield,
      fun hevent hstop => ?_⟩
    · have hfew : form.rules.length ≤ limit := by
        refine Nat.le_of_not_lt fun hmany => ?_
        rw [Service.rulesOf?_of_tooMany hmany] at hrules
        cases hrules
      rw [Service.rulesOf?_of_brought hbrought hfew] at hrules
      have hlength := (mapM_eq_ok_iff.mp hrules).length_eq
      exact ⟨hlength.symm, hlength ▸ hfew⟩
    · rw [← Service.length_of_evaluated hrules hevaluated hevent hstop]
      exact (mapM_eq_some_iff.mp hanswers).length_eq.symm
  · exact Service.status_respond_of_configured hverb hpath hbody helapsed hnone
  · have hrules := Service.rulesOf?_of_definitions (s := s) (o := o) hnone hdefinitions
    exact ⟨hrules, Service.status_respond_of_hasAnswer hverb hpath hbody helapsed hrules⟩

/-- The context of a tenant with some definitions. -/
def tenantContext (definitions : List Value) : List (String × Value) :=
  [("tenantConfig", .mapping [("rules", .list definitions)])]

/-- A request for the evaluation of some rules in the context of a tenant with some definitions. -/
def sourcesRequest (rules definitions : List Value) : Request where
  method := "POST"
  target := "/rules/evaluate"
  headers := []
  body := some (.ok (.mapping [
    ("rules", .list rules), ("context", .mapping (tenantContext definitions))]))

theorem verb_sourcesRequest (rules definitions : List Value) :
    (sourcesRequest rules definitions).verb = "POST" := by
  change (sourcesRequest [] []).verb = "POST"
  decide +kernel

theorem path_sourcesRequest (rules definitions : List Value) :
    (sourcesRequest rules definitions).path = "/rules/evaluate" := by
  change (sourcesRequest [] []).path = "/rules/evaluate"
  decide +kernel

/-- Definitions of two rules. -/
def twoDefinitions : List Value := [
  .mapping [("id", .text "a"), ("name", .text "A")],
  .mapping [("id", .text "b"), ("name", .text "B")]]

/-- A service that takes one rule at a time. -/
def narrowService : Service :=
  { freshService with settings := { freshService.settings with maxRules := 1 } }

/-- A service that takes one rule at a time refuses two. -/
theorem respond_limit_brought :
    (sourcesRequest twoDefinitions []).verb = "POST" ∧
    (sourcesRequest twoDefinitions []).path = "/rules/evaluate" ∧
    (firstOccasion.elapsed.mul Service.millisecondsPerSecond).isFinite = true ∧
    ∃ form, Form.ofBody Form.evaluation none (sourcesRequest twoDefinitions []).body = .ok form ∧
      narrowService.settings.maxRules.toNat < form.rules.length ∧
      (narrowService.respond firstOccasion (sourcesRequest twoDefinitions [])).2.status = 400 := by
  have hverb := verb_sourcesRequest twoDefinitions []
  have hpath := path_sourcesRequest twoDefinitions []
  have helapsed := isMeasured_firstOccasion.elapsed
  obtain ⟨hrefused, -, -⟩ := respond_limit (s := narrowService) hverb hpath rfl helapsed
  have hmany : narrowService.settings.maxRules.toNat < twoDefinitions.length := by decide
  have hwritable : (Value.int twoDefinitions.length).isWritable = true := by decide +kernel
  obtain ⟨-, -, hsent⟩ := hrefused hmany
  exact ⟨hverb, hpath, helapsed, _, rfl, hmany, (hsent hwritable).1⟩

/-- A service of an environment that takes one rule at a time evaluates two when they stand in the
tenant's configuration. -/
theorem respond_limit_configured :
    ∃ s form rules,
      Service.ofEnvironment? [("RULES_MAX_RULES_PER_REQUEST", .text "1")] (.ok (.mapping [])) =
        .ok s ∧
      s.settings.maxRules = 1 ∧
      (sourcesRequest [] twoDefinitions).verb = "POST" ∧
      (sourcesRequest [] twoDefinitions).path = "/rules/evaluate" ∧
      Form.ofBody Form.evaluation none (sourcesRequest [] twoDefinitions).body = .ok form ∧
      (s.respond firstOccasion (sourcesRequest [] twoDefinitions)).2.status = 200 ∧
      s.rulesOf? firstOccasion form = .ok rules ∧ rules.length = 2 := by
  have hdecided : (Service.ofEnvironment? [("RULES_MAX_RULES_PER_REQUEST", .text "1")]
      (.ok (.mapping []))).toOption.map (·.settings.maxRules) = some 1 := by decide +kernel
  have hverb := verb_sourcesRequest [] twoDefinitions
  have hpath := path_sourcesRequest [] twoDefinitions
  have helapsed := isMeasured_firstOccasion.elapsed
  have hlength : (readable firstOccasion.now twoDefinitions).length = 2 := by decide +kernel
  have hcount : (Value.int (readable firstOccasion.now twoDefinitions).length).isWritable = true := by
    decide +kernel
  have hanswers : ∀ rule ∈ readable firstOccasion.now twoDefinitions,
      rule.HasAnswer (.mapping (tenantContext twoDefinitions)) := by
    have hresults : ∀ rule ∈ readable firstOccasion.now twoDefinitions,
        (rule.evaluate (some .silent) (.mapping (tenantContext twoDefinitions))).toOption.all
          (fun result => result.actions.isEmpty && result.isWritable) = true := by decide +kernel
    have hlabelled : ∀ rule ∈ readable firstOccasion.now twoDefinitions,
        rule.IsLabelled (.mapping (tenantContext twoDefinitions)) := by decide +kernel
    have hof : ∀ rule ∈ readable firstOccasion.now twoDefinitions, ∀ result,
        rule.evaluate (some .silent) (.mapping (tenantContext twoDefinitions)) = .ok result →
          result.actions = [] ∧ result.isWritable = true := by
      intro rule hrule result hresult
      have hone := hresults rule hrule
      rw [hresult] at hone
      simpa only [Except.toOption, Option.all_some, Bool.and_eq_true, List.isEmpty_iff] using hone
    refine fun rule hrule => ⟨hlabelled rule hrule, fun result hresult => ?_,
      fun result hresult => (hof rule hrule result hresult).2⟩
    rw [(hof rule hrule result hresult).1]
    exact List.forall_mem_nil _
  cases hservice : Service.ofEnvironment? [("RULES_MAX_RULES_PER_REQUEST", .text "1")]
      (.ok (.mapping [])) with
  | error issues =>
      rw [hservice] at hdecided
      cases hdecided
  | ok s =>
      rw [hservice] at hdecided
      have hrules : s.rulesOf? firstOccasion
          ⟨[], tenantContext twoDefinitions, .null, none⟩ =
            .ok (readable firstOccasion.now twoDefinitions) :=
        Service.rulesOf?_of_definitions rfl rfl
      exact ⟨s, _, _, rfl, Option.some.inj hdecided, hverb, hpath, rfl,
        Service.status_respond_of_hasAnswer hverb hpath rfl helapsed hrules hanswers hcount,
        hrules, hlength⟩

/-! ### Bringing rules along -/

/-- A body with a field written. -/
def Body.withField (name : String) (v : Value) : Body → Body
  | some (.ok (.mapping entries)) => some (.ok (.mapping (Value.write name v entries)))
  | body => body

/-- A request that brings some rules along, instead of the ones it had. -/
def Request.withRules (r : Request) (definitions : List Value) : Request :=
  { r with body := r.body.withField "rules" (.list definitions) }

namespace Form

/-- Nothing is found among items that are mappings. -/
theorem itemFindings_eq_nil (name : String) (position : ℕ) {items : List Value}
    (h : ∀ v ∈ items, v.isMapping = true) : itemFindings name position items = [] := by
  induction items generalizing position with
  | nil => rfl
  | cons v rest ih =>
      obtain ⟨hv, hrest⟩ := List.forall_mem_cons.mp h
      rw [itemFindings, ih (position + 1) hrest]
      cases v with
      | mapping entries => rfl
      | _ => cases hv

variable {entries context : List (String × Value)} {definitions : List Value}

/-- The form of a body that brings no rules, with some mappings written as its rules. -/
theorem evaluation_write (hmappings : ∀ v ∈ definitions, v.isMapping = true)
    (hrules : optionalList entries "rules" = ([], []))
    (hcontext : Value.lookup "context" entries = some (.mapping context)) :
    evaluation (Value.write "rules" (.list definitions) entries) =
      ({ (evaluation entries).1 with rules := definitions }, (evaluation entries).2) := by
  have hlookup : ∀ name, name ≠ "rules" →
      Value.lookup name (Value.write "rules" (.list definitions) entries) =
        Value.lookup name entries :=
    fun name hname => Value.lookup_write_of_ne hname _ _
  have hwritten : optionalList (Value.write "rules" (.list definitions) entries) "rules" =
      (definitions, []) := by
    rw [optionalList, Value.lookup_write_self]
  simp only [evaluation, hwritten, hrules, requiredMapping, optionalText, optionalBool,
    hlookup _ (by decide : "context" ≠ "rules"), hlookup _ (by decide : "trigger_event" ≠ "rules"),
    hlookup _ (by decide : "stop_on_first_match" ≠ "rules"), hcontext,
    itemFindings_eq_nil "rules" 0 hmappings]
  rfl

/-- A body fits the form for rule sets when it brings no rules exactly when it fits with some
mappings as its rules. -/
theorem ofBody_withField (hmappings : ∀ v ∈ definitions, v.isMapping = true)
    (hrules : optionalList entries "rules" = ([], []))
    (hcontext : Value.lookup "context" entries = some (.mapping context)) :
    ofBody evaluation none (Body.withField "rules" (.list definitions)
        (some (.ok (.mapping entries)))) =
      (ofBody evaluation none (some (.ok (.mapping entries)))).map
        fun form => { form with rules := definitions } := by
  simp only [Body.withField, ofBody]
  rw [evaluation_write hmappings hrules hcontext]
  generalize evaluation entries = checked
  obtain ⟨form, findings⟩ := checked
  cases findings with
  | nil => rfl
  | cons f rest => rfl

/-- What a body asks for that brings no rules. -/
theorem rules_and_context_of_ofBody {form : EvaluationForm}
    (hrules : optionalList entries "rules" = ([], []))
    (hcontext : Value.lookup "context" entries = some (.mapping context))
    (h : ofBody evaluation none (some (.ok (.mapping entries))) = .ok form) :
    form.rules = [] ∧ form.context = context := by
  have hfits : (evaluation entries).1 = form := by
    simp only [ofBody] at h
    split at h
    · next hread =>
      rw [hread]
      exact Except.ok.inj h
    · cases h
  subst hfits
  simp [evaluation, hrules, requiredMapping, hcontext, mapping]

end Form

/-- **Bringing the readable definitions along is the same as bringing nothing.** A request for the
evaluation of a rule set brings no rules, and its context has a tenant's configuration with a list
of definitions. The request that brings those of them that can be read, where they are not more than
the limit, is responded to alike, whatever the event is and wherever it stops, at any points of a
service's life and on any occasions. Whether a definition can be read may be asked at any moment. -/
theorem respond_withRules (s : Service) {log log' : MetricsLog} (hlog : log.service = log'.service)
    {o o' : Occasion} (ho : o.IsMeasured) (ho' : o'.IsMeasured) (now : Timestamp) {r : Request}
    {entries context config : List (String × Value)} {definitions : List Value}
    (hverb : r.verb = "POST") (hpath : r.path = "/rules/evaluate")
    (hbody : r.body = some (.ok (.mapping entries)))
    (hrules : Form.optionalList entries "rules" = ([], []))
    (hcontext : Value.lookup "context" entries = some (.mapping context))
    (hconfig : Value.lookup "tenantConfig" context = some (.mapping config))
    (hdefinitions : Value.lookup "rules" config = some (.list definitions))
    (hlimit : (definitions.filter (Rule.isReadable now)).length ≤ s.settings.maxRules.toNat) :
    Service.ResponsesAlike s log log' r ((s.withMetrics log).respond o r)
      ((s.withMetrics log').respond o'
        (r.withRules (definitions.filter (Rule.isReadable now)))) := by
  have hmappings : ∀ v ∈ definitions.filter (Rule.isReadable now), v.isMapping = true :=
    fun v hv => Rule.isMapping_of_isReadable (List.mem_filter.mp hv).2
  have hforms := Form.ofBody_withField hmappings hrules hcontext
  rw [← hbody] at hforms
  have hwork : Service.WorksAlike log log' ((s.withMetrics log).work o r)
      ((s.withMetrics log').work o' (r.withRules (definitions.filter (Rule.isReadable now)))) := by
    have hverb' : (r.withRules (definitions.filter (Rule.isReadable now))).verb = "POST" := hverb
    have hpath' : (r.withRules (definitions.filter (Rule.isReadable now))).path =
        "/rules/evaluate" := hpath
    rw [Service.work_evaluateRuleSet hverb hpath, Service.work_evaluateRuleSet hverb' hpath',
      Service.withForm, Service.withForm, Request.withRules, hforms]
    cases hfits : Form.ofBody Form.evaluation none r.body with
    | error refused => exact Service.worksAlike_answer log log' _
    | ok form =>
        rw [hbody] at hfits
        obtain ⟨hnone, rfl⟩ := Form.rules_and_context_of_ofBody hrules hcontext hfits
        have hfound : tenantDefinitions? form.config = .ok definitions := by
          rw [EvaluationForm.config, hconfig]
          exact tenantDefinitions?_of_lookup hdefinitions
        have hsame : ((s.withMetrics log).rulesOf? o form).map (List.map Rule.unstamped) =
            ((s.withMetrics log').rulesOf? o'
              { form with rules := definitions.filter (Rule.isReadable now) }).map
                (List.map Rule.unstamped) := by
          rw [Service.rulesOf?_of_definitions hnone hfound,
            Service.rulesOf?_withReadable (s := s.withMetrics log') now hfound hlimit]
          exact congrArg Except.ok (map_unstamped_readable o.now o'.now definitions)
        exact s.worksAlike_of_runOf?_eq hlog ho ho'
          (Service.runOf?_congr_rules rfl o o' hsame rfl rfl rfl)
  exact Service.responsesAlike_respondTo s hlog hwork.metrics r hwork.ending

/-- Definitions of two rules among values that cannot be read. -/
def mixedDefinitions : List Value := [
  .null,
  .mapping [("id", .text "a"), ("name", .text "A"), ("priority", .int 7)],
  .mapping [("id", .text "nameless")],
  .mapping [("id", .text "fee"), ("name", .text "Fee"),
    ("actions", .list [.mapping [("type", .text "set_field"), ("field", .text "fee"),
      ("value", .int 3)]])],
  .mapping [("id", .text "idle"), ("name", .text "Idle"), ("actions", .list [.int 1])]]

/-- The two rules among them brought along. -/
theorem respond_withRules_mixed :
    firstOccasion.IsMeasured ∧ secondOccasion.IsMeasured ∧
    (sourcesRequest [] mixedDefinitions).verb = "POST" ∧
    (sourcesRequest [] mixedDefinitions).path = "/rules/evaluate" ∧
    (mixedDefinitions.filter (Rule.isReadable .epoch)).length = 2 ∧
    2 ≤ freshService.settings.maxRules.toNat ∧
    (freshService.respond firstOccasion (sourcesRequest [] mixedDefinitions)).2.compared
        (sourcesRequest [] mixedDefinitions) =
      (freshService.respond secondOccasion ((sourcesRequest [] mixedDefinitions).withRules
        (mixedDefinitions.filter (Rule.isReadable .epoch)))).2.compared
          (sourcesRequest [] mixedDefinitions) := by
  have hverb := verb_sourcesRequest [] mixedDefinitions
  have hpath := path_sourcesRequest [] mixedDefinitions
  have hlength : (mixedDefinitions.filter (Rule.isReadable .epoch)).length = 2 := by
    decide +kernel
  have hlimit : 2 ≤ freshService.settings.maxRules.toNat := by decide
  have hname : freshService.metrics.service = freshService.metrics.service := rfl
  have halike := respond_withRules freshService hname isMeasured_firstOccasion
    isMeasured_secondOccasion .epoch hverb hpath rfl rfl rfl rfl rfl (hlength.trans_le hlimit)
  exact ⟨isMeasured_firstOccasion, isMeasured_secondOccasion, hverb, hpath, hlength, hlimit,
    halike.compared⟩

end Rulebook
