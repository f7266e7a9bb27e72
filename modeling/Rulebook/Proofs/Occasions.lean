import Rulebook.Proofs.Answers

/-!
# Results Do Not Depend on the Occasion

The moment at which a rule is read becomes its stamp when its definition gives none, and the moment
at which a template builds a rule becomes the stamp of that rule. Nothing else looks at it. This
module shows that rules which are read at different moments differ in their stamps alone, and that
stamps play no part in an evaluation. So the run that a request asks for is the same on every
occasion.

## Main definitions

* `Rule.unstamped`: a rule with its stamps taken away.

## Main results

* `Rule.map_unstamped_ofValue?`, `Template.map_unstamped_instantiate?`: without its stamps, a rule
  is the same whenever it is read or built.
* `evaluateAll_congr_unstamped`: rules that differ in their stamps alone give the same run.
* `Service.runOf?_congr_rules`: the run that a request asks for depends on its rules without their
  stamps.
* `Service.runOf?_congr`, `Service.runAlone?_congr`: they are the same on every occasion.
-/

namespace Rulebook

/-! ### Sequences with steps that differ -/

section Congr

variable {ε α β γ δ : Type} {f f' : α → Except ε β} {g : β → γ}

/-- Sequences with one first step agree as their second steps do. -/
theorem map_bind_congr_right (x : Except ε α) (h : ∀ a, (f a).map g = (f' a).map g) :
    (x >>= f).map g = (x >>= f').map g := by
  cases x with
  | error e => rfl
  | ok a => exact h a

/-- Sequences agree when their first steps agree in something, and their second steps do whenever
the first ones agreed in that. -/
theorem map_bind_congr {p : α → δ} {x x' : Except ε α} (hx : x.map p = x'.map p)
    (h : ∀ a a', p a = p a' → (f a).map g = (f' a').map g) :
    (x >>= f).map g = (x' >>= f').map g := by
  cases x with
  | error e =>
      cases x' with
      | error e' =>
          obtain rfl := Except.error.inj hx
          rfl
      | ok a' => cases hx
  | ok a =>
      cases x' with
      | error e' => cases hx
      | ok a' => exact h a a' (Except.ok.inj hx)

/-- Going through a list agrees when every item does. -/
theorem map_mapM_congr (h : ∀ a, (f a).map g = (f' a).map g) (as : List α) :
    (as.mapM f).map (List.map g) = (as.mapM f').map (List.map g) := by
  induction as with
  | nil => rfl
  | cons a as ih =>
      rw [List.mapM_cons, List.mapM_cons]
      refine map_bind_congr (h a) fun b b' hb => map_bind_congr ih fun bs bs' hbs => ?_
      have hcons : (b :: bs).map g = (b' :: bs').map g := by
        rw [List.map_cons, List.map_cons, hb, hbs]
      exact congrArg Except.ok hcons

end Congr

/-! ### Rules without stamps -/

namespace Rule

/-- A rule with its stamps taken away. -/
def unstamped (r : Rule) : Rule := { r with created := .epoch, updated := .epoch }

/-- Whether a stamp reads does not depend on the moment. -/
theorem map_stampOf? (now now' : Timestamp) (ruleId : Value) (key : String) (v : Value) :
    (stampOf? now ruleId key v).map (fun _ => ()) =
      (stampOf? now' ruleId key v).map fun _ => () := by
  rw [stampOf?.eq_def, stampOf?.eq_def]
  cases v with
  | text s => rfl
  | _ => rfl

/-- Without its stamps, a rule reads the same at every moment. -/
theorem map_unstamped_ofEntries? (now now' : Timestamp) (entries : List (String × Value)) :
    (ofEntries? now entries).map unstamped = (ofEntries? now' entries).map unstamped := by
  simp only [ofEntries?]
  split
  · rfl
  · refine map_bind_congr_right _ fun written => ?_
    refine map_bind_congr_right _ fun _ => ?_
    refine map_bind_congr (map_stampOf? _ _ _ _ _) fun created created' _ => ?_
    refine map_bind_congr (map_stampOf? _ _ _ _ _) fun updated updated' _ => ?_
    refine map_bind_congr_right _ fun id => ?_
    refine map_bind_congr_right _ fun condition => ?_
    refine map_bind_congr_right _ fun actions => ?_
    rfl

/-- **Without its stamps, a rule reads the same at every moment.** -/
theorem map_unstamped_ofValue? (now now' : Timestamp) (v : Value) :
    (ofValue? now v).map unstamped = (ofValue? now' v).map unstamped := by
  cases v with
  | mapping entries => exact map_unstamped_ofEntries? now now' entries
  | _ => rfl

end Rule

/-- Without its stamps, a template builds the same rule at every moment. -/
theorem Template.map_unstamped_instantiate? (now now' : Timestamp) (category name : Value)
    (positional : List Value) (named : List (String × Value)) :
    (instantiate? now category name positional named).map Rule.unstamped =
      (instantiate? now' category name positional named).map Rule.unstamped := by
  rw [instantiate?, instantiate?]
  split
  · rfl
  · exact map_bind_congr_right _ fun t => map_bind_congr_right _ fun d => rfl

/-- Without their stamps, the rules that some definitions give are the same at every moment. -/
theorem map_unstamped_readable (now now' : Timestamp) (definitions : List Value) :
    (readable now definitions).map Rule.unstamped =
      (readable now' definitions).map Rule.unstamped := by
  rw [readable, readable, List.map_filterMap, List.map_filterMap]
  refine List.filterMap_congr fun v _ => ?_
  rw [← toOption_map, ← toOption_map, Rule.map_unstamped_ofValue? now now']

/-! ### Runs of rules without stamps -/

namespace Rule

@[simp] theorem rank_unstamped (r : Rule) : r.unstamped.rank = r.rank := rfl

@[simp] theorem evaluate_unstamped (notifier : Option Notifier) (context : Value) (r : Rule) :
    r.unstamped.evaluate notifier context = r.evaluate notifier context := rfl

/-- The priority of a rule that was read passes. -/
theorem IsRead.checkPriority {r : Rule} (h : r.IsRead) :
    Rule.checkPriority r.id r.priority = .ok () := by
  obtain ⟨_, _, _, _, _, hpriority, rfl⟩ := h.exists_assembled
  exact checkPriority_eq_ok_iff.mpr (checkPriority_eq_ok_iff.mp hpriority)

/-- A rule that was read could have been read without its stamps. -/
theorem IsRead.unstamped {r : Rule} (h : r.IsRead) : r.unstamped.IsRead :=
  h.rewritten h.checkPriority .epoch .epoch

theorem arranged_map_unstamped (rules : List Rule) :
    arranged (rules.map Rule.unstamped) = (arranged rules).map Rule.unstamped :=
  (List.map_mergeSort (r := ranksBefore) (f := Rule.unstamped) fun _ _ _ _ => rfl).symm

theorem registeredFor_map_unstamped (event : Value) (rules : List Rule) :
    registeredFor event (rules.map Rule.unstamped) =
      (registeredFor event rules).map Rule.unstamped := by
  rw [registeredFor, registeredFor]
  split
  · exact List.filter_map
  · rfl

end Rule

/-- A run does not look at stamps. -/
theorem Run.ofCandidates_map_unstamped (stop : Bool) (notifier : Option Notifier) (context : Value)
    (rules : List Rule) :
    ofCandidates stop notifier context ((rules.map Rule.unstamped).map .rule) =
      ofCandidates stop notifier context (rules.map .rule) := by
  induction rules with
  | nil => rfl
  | cons r rest ih =>
      have hfirst : (Candidate.rule r.unstamped).evaluate notifier context =
          (Candidate.rule r).evaluate notifier context := rfl
      have hsent : (Candidate.rule r.unstamped).notified notifier context =
          (Candidate.rule r).notified notifier context := rfl
      simp only [List.map_cons, ofCandidates, hfirst, hsent, ih]

/-- **Rules that differ in their stamps alone give the same run.** -/
theorem evaluateAll_congr_unstamped (stop : Bool) (notifier : Option Notifier) (context : Value)
    {rules others : List Rule} (h : ∀ r ∈ rules, r.IsRead) (hothers : ∀ r ∈ others, r.IsRead)
    (hsame : rules.map Rule.unstamped = others.map Rule.unstamped) :
    evaluateAll stop notifier context (rules.map .rule) =
      evaluateAll stop notifier context (others.map .rule) := by
  have hrules : ∀ rs : List Rule, (∀ r ∈ rs, r.IsRead) →
      evaluateAll stop notifier context (rs.map .rule) =
        Run.ofCandidates stop notifier context
          ((Rule.arranged (rs.map Rule.unstamped)).map .rule) := by
    intro rs hrs
    rw [evaluateAll, Candidate.inOrder_rules hrs, Rule.arranged_map_unstamped,
      Run.ofCandidates_map_unstamped]
  rw [hrules rules h, hrules others hothers, hsame]

/-! ### What a request asks for -/

namespace Service

variable {s s' : Service} (h : s.settings = s'.settings) (o o' : Occasion)

include h

/-- Without their stamps, the rules of a request are the same on every occasion. -/
theorem map_unstamped_rulesOf? (form : EvaluationForm) :
    (s.rulesOf? o form).map (List.map Rule.unstamped) =
      (s'.rulesOf? o' form).map (List.map Rule.unstamped) := by
  have hparsed : (s.parseRules? o form.rules).map (List.map Rule.unstamped) =
      (s'.parseRules? o' form.rules).map (List.map Rule.unstamped) := by
    rw [parseRules?, parseRules?, h]
    dsimp only
    split
    · rfl
    · exact map_mapM_congr (Rule.map_unstamped_ofValue? o.now o'.now) form.rules
  rw [rulesOf?, rulesOf?]
  refine map_bind_congr hparsed fun rules rules' hrules => ?_
  split
  · rw [loadRules?, loadRules?]
    cases tenantDefinitions? ((Value.lookup "tenantConfig" form.context).getD .null) with
    | error fault => rfl
    | ok definitions => exact congrArg Except.ok (map_unstamped_readable o.now o'.now definitions)
  · exact congrArg Except.ok hrules

/-- **The run that a request asks for depends on its rules without their stamps**, on its context,
its event and where it stops. -/
theorem runOf?_congr_rules {form form' : EvaluationForm}
    (hrules : (s.rulesOf? o form).map (List.map Rule.unstamped) =
      (s'.rulesOf? o' form').map (List.map Rule.unstamped))
    (hcontext : form.context = form'.context) (htrigger : form.trigger = form'.trigger)
    (hstop : form.stop = form'.stop) : s.runOf? o form = s'.runOf? o' form' := by
  rw [runOf?, runOf?, h, hcontext, htrigger, hstop]
  cases hs : s.rulesOf? o form with
  | error failure =>
      cases hs' : s'.rulesOf? o' form' with
      | error failure' =>
          rw [hs, hs'] at hrules
          exact congrArg Except.error (Except.error.inj hrules)
      | ok rules' =>
          rw [hs, hs'] at hrules
          cases hrules
  | ok rules =>
      cases hs' : s'.rulesOf? o' form' with
      | error failure' =>
          rw [hs, hs'] at hrules
          cases hrules
      | ok rules' =>
          rw [hs, hs'] at hrules
          have hregistered : (Rule.registeredFor form'.trigger rules).map Rule.unstamped =
              (Rule.registeredFor form'.trigger rules').map Rule.unstamped := by
            rw [← Rule.registeredFor_map_unstamped, ← Rule.registeredFor_map_unstamped,
              Except.ok.inj hrules]
          have hrun := evaluateAll_congr_unstamped
            (form'.stop.getD s'.settings.stopOnFirstMatch) (some .silent) (.mapping form'.context)
            (fun r hr => isRead_of_rulesOf? hs r (Rule.mem_of_mem_registeredFor hr))
            (fun r hr => isRead_of_rulesOf? hs' r (Rule.mem_of_mem_registeredFor hr)) hregistered
          exact congrArg Except.ok hrun

/-- **The run that a request for the evaluation of a rule set asks for** is the same on every
occasion. -/
theorem runOf?_congr (form : EvaluationForm) : s.runOf? o form = s'.runOf? o' form :=
  runOf?_congr_rules h o o' (map_unstamped_rulesOf? h o o' form) rfl rfl rfl

omit h in
/-- **The run that a request for the evaluation of one rule asks for** is the same on every
occasion. -/
theorem runAlone?_congr (form : RuleForm) : runAlone? o form = runAlone? o' form := by
  have hrule := Rule.map_unstamped_ofValue? o.now o'.now (.mapping form.rule)
  have hrun : ∀ now,
      (Rule.ofValue? now (.mapping form.rule)).map
          (runRule (some .silent) (.mapping form.context)) =
        ((Rule.ofValue? now (.mapping form.rule)).map Rule.unstamped).map
          (runRule (some .silent) (.mapping form.context)) := by
    intro now
    cases Rule.ofValue? now (.mapping form.rule) with
    | error failure => rfl
    | ok rule => rfl
  rw [runAlone?, runAlone?, hrun o.now, hrule, ← hrun o'.now]

end Service

end Rulebook
