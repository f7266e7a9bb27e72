import Rulebook.Proofs.Counting
import Rulebook.Proofs.Totality

/-!
# Rules That Stand By

A rule that is inactive, or registered for another event, takes no part in an evaluation. Such rules
may be added to a set at any places and with any priorities: the evaluation comes to the same, it
hands over the same messages, it counts the same, and its results are the old ones with those of the
inactive rules in between.

Two runs are compared here, and an added rule might move the others in the order of evaluation, or
stop the run. It does not do the first because leaving out items commutes with a stable sort, and
not the second because a run that leaves out candidates without a match is the run with their
results left out.

## Main definitions

* `Rule.IsBystander`: a rule that an evaluation passes over.
* `Rule.besides`: the rules of a set besides the added ones.

## Main results

* `filter_mergeSort`: leaving out items commutes with a stable sort.
* `Run.ofCandidates_filter`: leaving out candidates without a match from a run.
* `Engine.evaluateContext_bystanders`: rules that stand by change nothing but the results.
-/

namespace Rulebook

/-! ### Stable sorts -/

section StableSort

variable {α : Type} {le : α → α → Bool}
  (htrans : ∀ a b c, le a b = true → le b c = true → le a c = true)
  (htotal : ∀ a b, (le a b || le b a) = true)

include htrans htotal

/-- One more item in front is sorted behind the smaller ones and before all others. -/
theorem exists_mergeSort_cons (a : α) (l : List α) :
    ∃ l₁ l₂, (a :: l).mergeSort le = l₁ ++ a :: l₂ ∧ l.mergeSort le = l₁ ++ l₂ ∧
      (∀ b ∈ l₁, le a b = false) ∧ ∀ b ∈ l₂, le a b = true := by
  obtain ⟨l₁, l₂, hsort, hrest, hsmall⟩ := List.mergeSort_cons htrans htotal a l
  refine ⟨l₁, l₂, hsort, hrest, fun b hb => by simpa using hsmall b hb, fun b hb => ?_⟩
  have hsorted : (l₁ ++ a :: l₂).Pairwise fun b c => le b c = true := by
    rw [← hsort]
    exact List.pairwise_mergeSort htrans htotal _
  exact List.rel_of_pairwise_cons (List.pairwise_append.mp hsorted).2.1 hb

/-- Where one more item in front is sorted to is decided by comparing it with the others. -/
theorem mergeSort_cons_eq_of_append {a : α} {l l₁ l₂ : List α} (h : l.mergeSort le = l₁ ++ l₂)
    (h₁ : ∀ b ∈ l₁, le a b = false) (h₂ : ∀ b ∈ l₂, le a b = true) :
    (a :: l).mergeSort le = l₁ ++ a :: l₂ := by
  have hparts : ∀ {k₁ k₂ : List α}, (∀ b ∈ k₁, le a b = false) → (∀ b ∈ k₂, le a b = true) →
      (k₁ ++ k₂).filter (le a ·) = k₂ ∧ (k₁ ++ k₂).filter (!le a ·) = k₁ := by
    intro k₁ k₂ hk₁ hk₂
    constructor
    · rw [List.filter_append, List.filter_eq_self.mpr hk₂, List.filter_eq_nil_iff.mpr,
        List.nil_append]
      intro b hb
      simp [hk₁ b hb]
    · rw [List.filter_append, List.filter_eq_self.mpr, List.filter_eq_nil_iff.mpr, List.append_nil]
      · intro b hb
        simp [hk₂ b hb]
      · intro b hb
        simp [hk₁ b hb]
  obtain ⟨k₁, k₂, hsort, hrest, hk₁, hk₂⟩ := exists_mergeSort_cons htrans htotal a l
  have heq : k₁ ++ k₂ = l₁ ++ l₂ := hrest.symm.trans h
  have hlarge := (hparts hk₁ hk₂).1
  have hsmall := (hparts hk₁ hk₂).2
  rw [heq, (hparts h₁ h₂).1] at hlarge
  rw [heq, (hparts h₁ h₂).2] at hsmall
  rw [hsort, hlarge, hsmall]

/-- **Leaving out items commutes with a stable sort.** -/
theorem filter_mergeSort (p : α → Bool) (l : List α) :
    (l.mergeSort le).filter p = (l.filter p).mergeSort le := by
  induction l with
  | nil => simp
  | cons a l ih =>
      obtain ⟨l₁, l₂, hsort, hrest, h₁, h₂⟩ := exists_mergeSort_cons htrans htotal a l
      rw [hrest, List.filter_append] at ih
      rw [hsort, List.filter_append, List.filter_cons, List.filter_cons]
      cases p a with
      | true =>
          refine (mergeSort_cons_eq_of_append htrans htotal ih.symm ?_ ?_).symm
          · exact fun b hb => h₁ b (List.mem_filter.mp hb).1
          · exact fun b hb => h₂ b (List.mem_filter.mp hb).1
      | false => exact ih

/-- **Items that a stable sort holds for equal stay in their order.** -/
theorem pairwise_mergeSort_stable {R : α → α → Prop} {l : List α} (h : l.Pairwise R) :
    (l.mergeSort le).Pairwise fun a b => le a b = true ∧ (le b a = true → R a b) := by
  induction l with
  | nil => simp
  | cons a l ih =>
      obtain ⟨ha, hl⟩ := List.pairwise_cons.mp h
      obtain ⟨l₁, l₂, hsort, hrest, h₁, h₂⟩ := exists_mergeSort_cons htrans htotal a l
      have hmem : ∀ b ∈ l₂, R a b := by
        intro b hb
        have hsorted : b ∈ l.mergeSort le := by
          rw [hrest]
          exact List.mem_append_right l₁ hb
        exact ha b (List.mem_mergeSort.mp hsorted)
      have hpairs := ih hl
      rw [hrest, List.pairwise_append] at hpairs
      obtain ⟨hsmall, hlarge, hacross⟩ := hpairs
      rw [hsort, List.pairwise_append, List.pairwise_cons]
      refine ⟨hsmall, ⟨fun b hb => ⟨h₂ b hb, fun _ => hmem b hb⟩, hlarge⟩, ?_⟩
      intro b hb c hc
      rcases List.mem_cons.mp hc with rfl | hc
      · -- An item in front is strictly smaller.
        have hbefore := htotal c b
        rw [h₁ b hb, Bool.false_or] at hbefore
        exact ⟨hbefore, fun hle => absurd hle (Bool.eq_false_iff.mp (h₁ b hb))⟩
      · exact hacross b hb c hc

end StableSort

/-! ### Runs with candidates left out -/

namespace Run

variable {α : Type} {stop : Bool} {notifier : Option Notifier} {context : Value}

/-- **A run that leaves out candidates without a match** is the run with their results left out. -/
theorem ofCandidates_filter (candidate : α → Candidate) (keep : α → Bool) {ps : List α}
    (h : ∀ p ∈ ps, keep p = false →
      ∃ ruleId, (candidate p).evaluate notifier context = .ok (.unmatched ruleId)) :
    ofCandidates stop notifier context ((ps.filter keep).map candidate) =
      let run := ofCandidates stop notifier context (ps.map candidate)
      ⟨((ps.zip run.results).filter fun z => keep z.1).map Prod.snd, run.fault?,
        run.notified⟩ := by
  induction ps with
  | nil => rfl
  | cons p ps ih =>
      obtain ⟨hp, hps⟩ := List.forall_mem_cons.mp h
      rw [List.map_cons, ofCandidates, List.filter_cons]
      cases hkeep : keep p with
      | false =>
          obtain ⟨ruleId, hresult⟩ := hp hkeep
          have hsent : (candidate p).notified notifier context = [] :=
            Candidate.notified_of_evaluate hresult
          simp only [hresult, hsent, Result.unmatched, Bool.and_false, Bool.false_eq_true, if_false,
            List.nil_append]
          rw [ih hps, List.zip_cons_cons, List.filter_cons_of_neg (by simp [hkeep])]
      | true =>
          rw [if_pos rfl, List.map_cons, ofCandidates]
          cases (candidate p).evaluate notifier context with
          | error fault => rfl
          | ok result =>
              cases hstop : stop && result.matched with
              | true => simp [hkeep, hstop]
              | false =>
                  simp only [hstop, Bool.false_eq_true, if_false]
                  rw [ih hps, List.zip_cons_cons, List.filter_cons_of_pos (by simp [hkeep])]
                  rfl

/-- A run gives at most one result for each candidate. -/
theorem length_results_le (cs : List Candidate) :
    (ofCandidates stop notifier context cs).results.length ≤ cs.length := by
  induction cs with
  | nil => exact Nat.le_refl 0
  | cons c cs ih =>
      rw [ofCandidates, List.length_cons]
      split
      · exact Nat.zero_le _
      · split
        · exact Nat.le_add_left 1 cs.length
        · exact Nat.succ_le_succ ih

/-- The results of a run are those of the candidates in their places. -/
theorem evaluate_of_mem_zip (candidate : α → Candidate) {ps : List α} {z : α × Result}
    (h : z ∈ ps.zip (ofCandidates stop notifier context (ps.map candidate)).results) :
    (candidate z.1).evaluate notifier context = .ok z.2 := by
  induction ps with
  | nil => cases h
  | cons p ps ih =>
      rw [List.map_cons, ofCandidates] at h
      split at h
      · cases h
      · next result hresult =>
          split at h
          · rw [List.zip_cons_cons, List.zip_nil_right, List.mem_singleton] at h
            rw [h]
            exact hresult
          · rw [List.zip_cons_cons] at h
            rcases List.mem_cons.mp h with rfl | h
            · exact hresult
            · exact ih h

end Run

/-! ### Results left out -/

section LeftOut

variable {α β : Type} {keep : α × Result → Bool} {zs : List (α × Result)}
  (h : ∀ z ∈ zs, keep z = false → ∃ ruleId, z.2 = .unmatched ruleId)

include h

/-- Results without a match that are left out add nothing to what results come to one by one. -/
theorem flatMap_left_out {g : Result → List β} (hg : ∀ ruleId, g (.unmatched ruleId) = []) :
    ((zs.filter keep).map Prod.snd).flatMap g = (zs.map Prod.snd).flatMap g := by
  induction zs with
  | nil => rfl
  | cons z zs ih =>
      obtain ⟨hz, hzs⟩ := List.forall_mem_cons.mp h
      rw [List.filter_cons, List.map_cons, List.flatMap_cons, ← ih hzs]
      cases hkeep : keep z with
      | true => rfl
      | false =>
          obtain ⟨ruleId, hresult⟩ := hz hkeep
          rw [hresult, hg]
          rfl

/-- Results without a match that are left out change nothing of what results merge to. -/
theorem ofResults_left_out :
    Merged.ofResults ((zs.filter keep).map Prod.snd) = Merged.ofResults (zs.map Prod.snd) := by
  have hmatched : ∀ z ∈ zs, (z.2.matched && keep z) = z.2.matched := by
    intro z hz
    cases hkeep : keep z with
    | true => exact Bool.and_true _
    | false =>
        obtain ⟨ruleId, hresult⟩ := h z hz hkeep
        rw [hresult]
        rfl
  rw [Merged.ofResults_eq_foldl_take, Merged.ofResults_eq_foldl_take, List.filter_map,
    List.filter_map, List.filter_filter]
  congr 2
  exact List.filter_congr hmatched

end LeftOut

/-! ### Rules that stand by -/

namespace Rule

/-- An evaluation for an event **passes over** a rule: it is inactive, or registered for another
event. -/
def IsBystander (event : Value) (r : Rule) : Prop :=
  r.active.isTruthy = false ∨ r.trigger.same event = false

instance (event : Value) (r : Rule) : Decidable (r.IsBystander event) :=
  inferInstanceAs (Decidable (_ ∨ _))

/-- The rules of a set besides those at the places of added ones. -/
def besides (added : ℕ → Bool) (rules : List Rule) : List Rule :=
  (rules.zipIdx.filter fun p => !added p.2).map Prod.fst

/-- The rules of a set that are registered for an event, with their places in the set, in the order
of evaluation. -/
structure InOrderFor (event : Value) (rules : List Rule) (ordered : List (Rule × ℕ)) : Prop where
  /-- Every rule that is registered for the event stands there once. -/
  perm : ordered.Perm (rules.zipIdx.filter fun p => p.1.trigger.same event)
  /-- Ranks ascend, and rules of one rank keep their places. -/
  sorted : ordered.Pairwise Before

/-- Sorts rules with their places by rank. -/
def sortPlaced (ps : List (Rule × ℕ)) : List (Rule × ℕ) :=
  ps.mergeSort fun a b => ranksBefore a.1 b.1

theorem filter_sortPlaced (keep : Rule × ℕ → Bool) (ps : List (Rule × ℕ)) :
    (sortPlaced ps).filter keep = sortPlaced (ps.filter keep) :=
  filter_mergeSort (fun a b c => ranksBefore_trans a.1 b.1 c.1)
    (fun a b => ranksBefore_total a.1 b.1) keep ps

theorem map_fst_sortPlaced (ps : List (Rule × ℕ)) :
    (sortPlaced ps).map Prod.fst = arranged (ps.map Prod.fst) :=
  List.map_mergeSort fun _ _ _ _ => rfl

/-- Rules with ascending places are sorted into the order of evaluation. -/
theorem pairwise_sortPlaced {ps : List (Rule × ℕ)} (h : ps.Pairwise fun a b => a.2 < b.2) :
    (sortPlaced ps).Pairwise Before := by
  have hstable := pairwise_mergeSort_stable
    (fun (a b c : Rule × ℕ) => ranksBefore_trans a.1 b.1 c.1)
    (fun a b => ranksBefore_total a.1 b.1) h
  refine hstable.imp fun {a b} hab => ?_
  obtain ⟨p, hp⟩ := Binary64.exists_position? a.1.isNaN_rank
  obtain ⟨q, hq⟩ := Binary64.exists_position? b.1.isNaN_rank
  simp only [ranksBefore, Binary64.le_eq_of_position? hp hq, Binary64.le_eq_of_position? hq hp,
    decide_eq_true_eq] at hab
  simp only [Before, Binary64.lt_eq_of_position? hp hq,
    Binary64.sameNumber_eq_of_position? hp hq, decide_eq_true_eq]
  omega

/-- Choosing rules with their places is choosing rules. -/
theorem map_fst_filter_zipIdx (keep : Rule → Bool) (rules : List Rule) :
    (rules.zipIdx.filter fun p => keep p.1).map Prod.fst = rules.filter keep := by
  conv => rhs; rw [← List.zipIdx_map_fst 0 rules, List.filter_map]
  rfl

/-- Sorting the rules that are registered for an event puts them into the order of evaluation. -/
theorem inOrderFor_sortPlaced (event : Value) (rules : List Rule) :
    InOrderFor event rules (sortPlaced (rules.zipIdx.filter fun p => p.1.trigger.same event)) where
  perm := List.mergeSort_perm _ _
  sorted := by
    have hplaces : (rules.zipIdx.map Prod.snd).Pairwise (· < ·) := by
      rw [List.zipIdx_map_snd]
      exact List.pairwise_lt_range'
    exact pairwise_sortPlaced ((List.pairwise_map.mp hplaces).filter _)

section Registered

variable {event : Value} (hevent : event.isTruthy = true) (rules : List Rule)

include hevent

/-- The order of evaluation of the rules that are registered for an event. -/
theorem arranged_registeredFor :
    arranged (registeredFor event rules) =
      (sortPlaced (rules.zipIdx.filter fun p => p.1.trigger.same event)).map Prod.fst := by
  rw [map_fst_sortPlaced, map_fst_filter_zipIdx fun r => r.trigger.same event, registeredFor,
    if_pos hevent]

/-- **Without the added rules, the others are evaluated in the same order.** -/
theorem arranged_registeredFor_besides (added : ℕ → Bool) :
    arranged (registeredFor event (besides added rules)) =
      ((sortPlaced (rules.zipIdx.filter fun p => p.1.trigger.same event)).filter
        fun p => !added p.2).map Prod.fst := by
  have hcomm : ((rules.zipIdx.filter fun p => p.1.trigger.same event).filter fun p => !added p.2) =
      (rules.zipIdx.filter fun p => !added p.2).filter fun p => p.1.trigger.same event := by
    rw [List.filter_filter, List.filter_filter]
    exact List.filter_congr fun p _ => Bool.and_comm _ _
  rw [filter_sortPlaced, map_fst_sortPlaced, hcomm, registeredFor, if_pos hevent, besides,
    List.filter_map]
  rfl

end Registered

theorem mem_of_mem_besides {added : ℕ → Bool} {rules : List Rule} {r : Rule}
    (h : r ∈ besides added rules) : r ∈ rules := by
  obtain ⟨p, hp, rfl⟩ := List.mem_map.mp h
  exact List.fst_mem_of_mem_zipIdx (List.mem_filter.mp hp).1

/-- An inactive rule does not match. -/
theorem evaluate_of_inactive {r : Rule} (h : r.active.isTruthy = false)
    (notifier : Option Notifier) (context : Value) :
    r.evaluate notifier context = .ok (.unmatched r.id) := by
  rw [evaluate, applies, h]
  rfl

end Rule

/-! ### Evaluations -/

section Besides

variable {event : Value} {rules : List Rule} {added : ℕ → Bool}

/-- An added rule that is registered for the event is inactive. -/
theorem Rule.InOrderFor.inactive {ordered : List (Rule × ℕ)}
    (hordered : Rule.InOrderFor event rules ordered)
    (hadded : ∀ p ∈ rules.zipIdx, added p.2 = true → p.1.IsBystander event) :
    ∀ p ∈ ordered, added p.2 = true → p.1.active.isTruthy = false := by
  intro p hp hplace
  obtain ⟨hmem, hsame⟩ := List.mem_filter.mp (hordered.perm.mem_iff.mp hp)
  refine (hadded p hmem hplace).resolve_right fun hother => ?_
  rw [hother] at hsame
  cases hsame

/-- **The run without the added rules** ends as the run with them does, with the same messages. It
has the results of the others: those of the run with them, when the results of the added rules are
left out. The added rules that are run do not match. -/
theorem evaluateAll_besides (h : ∀ r ∈ rules, r.IsRead) (hevent : event.isTruthy = true)
    (hadded : ∀ p ∈ rules.zipIdx, added p.2 = true → p.1.IsBystander event) (stop : Bool)
    (notifier : Option Notifier) (context : Value) :
    let run := evaluateAll stop notifier context ((Rule.registeredFor event rules).map .rule)
    ∃ ordered, Rule.InOrderFor event rules ordered ∧
      ordered.map Prod.fst = Rule.arranged (Rule.registeredFor event rules) ∧
      (ordered.zip run.results).map Prod.snd = run.results ∧
      evaluateAll stop notifier context
          ((Rule.registeredFor event (Rule.besides added rules)).map .rule) =
        ⟨((ordered.zip run.results).filter fun z => !added z.1.2).map Prod.snd, run.fault?,
          run.notified⟩ ∧
      ∀ z ∈ ordered.zip run.results, (!added z.1.2) = false → ∃ ruleId, z.2 = .unmatched ruleId := by
  let candidate : Rule × ℕ → Candidate := fun p => .rule p.1
  let ordered := Rule.sortPlaced (rules.zipIdx.filter fun p => p.1.trigger.same event)
  have hordered : Rule.InOrderFor event rules ordered := Rule.inOrderFor_sortPlaced event rules
  have hinactive := hordered.inactive hadded
  have hrun : evaluateAll stop notifier context ((Rule.registeredFor event rules).map .rule) =
      Run.ofCandidates stop notifier context (ordered.map candidate) := by
    rw [evaluateAll_rules _ _ _ fun r hr => h r (Rule.mem_of_mem_registeredFor hr),
      Rule.arranged_registeredFor hevent, List.map_map]
    rfl
  have hother : evaluateAll stop notifier context
        ((Rule.registeredFor event (Rule.besides added rules)).map .rule) =
      Run.ofCandidates stop notifier context
        ((ordered.filter fun p => !added p.2).map candidate) := by
    have hread : ∀ r ∈ Rule.registeredFor event (Rule.besides added rules), r.IsRead :=
      fun r hr => h r (Rule.mem_of_mem_besides (Rule.mem_of_mem_registeredFor hr))
    rw [evaluateAll_rules _ _ _ hread, Rule.arranged_registeredFor_besides hevent, List.map_map]
    rfl
  have hunmatched : ∀ p ∈ ordered, (!added p.2) = false →
      (candidate p).evaluate notifier context = .ok (.unmatched p.1.id) := by
    intro p hp hplace
    exact Rule.evaluate_of_inactive (hinactive p hp (by simpa using hplace)) notifier context
  rw [hrun, hother]
  refine ⟨ordered, hordered, (Rule.arranged_registeredFor hevent rules).symm, ?_, ?_, ?_⟩
  · refine List.map_snd_zip ?_
    have hlength : (Run.ofCandidates stop notifier context (ordered.map candidate)).results.length ≤
        (ordered.map candidate).length := Run.length_results_le (ordered.map candidate)
    rwa [List.length_map] at hlength
  · exact Run.ofCandidates_filter candidate _ fun p hp hplace => ⟨_, hunmatched p hp hplace⟩
  · intro z hz hplace
    have hevaluate := Run.evaluate_of_mem_zip candidate hz
    rw [hunmatched z.1 (List.of_mem_zip hz).1 hplace] at hevaluate
    exact ⟨_, (Except.ok.inj hevaluate).symm⟩

end Besides

/-- **Rules that stand by change nothing but the results**: rules that are inactive or registered
for another event may be added to a set at any places. With them, the evaluation for the event hands
over the same messages and adds the same to the counters, however long it takes, and comes to the
same values, errors and number of matched rules. Its results are those of the rules registered for
the event, in the order of evaluation, up to where the run stopped; the results without the added
rules are left when the results of the added ones, which are inactive there, are left out. When it
breaks off at a rule that is not labelled, it does so with the added rules and without them. -/
theorem Engine.evaluateContext_bystanders (engine : Engine) (elapsed elapsed' : Binary64)
    {rules : List Rule} (h : ∀ r ∈ rules, r.IsRead) {event : Value}
    (hevent : event.isTruthy = true) (added : ℕ → Bool)
    (hadded : ∀ p ∈ rules.zipIdx, added p.2 = true → p.1.IsBystander event)
    (entries : List (String × Value)) (stop : Bool) :
    let answer := engine.evaluateContext elapsed (rules.map .rule) (.mapping entries) event stop
    let other := engine.evaluateContext elapsed' ((Rule.besides added rules).map .rule)
      (.mapping entries) event stop
    answer.notified = other.notified ∧
    answer.engine.metrics.map (·.counters) = other.engine.metrics.map (·.counters) ∧
    ((∃ e f ordered, answer.outcome = .ok e ∧ other.outcome = .ok f ∧
        e.merged = f.merged ∧
        Rule.InOrderFor event rules ordered ∧
        List.Forall₂ (fun p result => p.1.evaluate engine.notifier (.mapping entries) = .ok result)
          (ordered.take e.results.length) e.results ∧
        f.results = ((ordered.zip e.results).filter fun z => !added z.1.2).map Prod.snd ∧
        ∀ p ∈ ordered, added p.2 = true → p.1.active.isTruthy = false) ∨
      ((∃ r ∈ rules, ¬r.IsLabelled (.mapping entries)) ∧
        answer.outcome = .error .integerTooLong ∧ other.outcome = .error .integerTooLong)) := by
  have hselected : ∀ r ∈ Rule.registeredFor event rules, r.IsRead :=
    fun r hr => h r (Rule.mem_of_mem_registeredFor hr)
  obtain ⟨results, hresults, hrun⟩ :=
    evaluateAll_beginning stop engine.notifier (.mapping entries) hselected
  obtain ⟨ordered, hordered, harranged, hall, hother, hunmatched⟩ :=
    evaluateAll_besides h hevent hadded stop engine.notifier (.mapping entries)
  rw [evaluateContext_eq, evaluateContext_eq, hother]
  rcases hrun with hrun | ⟨r, hr, hnot, hrun⟩
  · rw [hrun] at hall hunmatched ⊢
    rw [← harranged, ← List.map_take] at hresults
    let others := ((ordered.zip results).filter fun z => !added z.1.2).map Prod.snd
    have hmerged : Merged.ofResults results = Merged.ofResults others :=
      (congrArg Merged.ofResults hall).symm.trans (ofResults_left_out hunmatched).symm
    have hfailures : results.flatMap (·.outcome.failed) = others.flatMap (·.outcome.failed) :=
      (congrArg (List.flatMap (·.outcome.failed)) hall).symm.trans
        (flatMap_left_out hunmatched fun _ => rfl).symm
    have hcounts : (Evaluation.ofResults results).counts =
        (Evaluation.ofResults others).counts := by
      simp only [Evaluation.counts, Evaluation.failures, Evaluation.ofResults, hmerged, hfailures]
    exact ⟨rfl, engine.counters_record_congr elapsed elapsed' hcounts, .inl ⟨_, _, ordered, rfl, rfl,
      hmerged, hordered, List.forall₂_map_left_iff.mp hresults, rfl, hordered.inactive hadded⟩⟩
  · have hmem := Rule.mem_of_getElem?_registeredFor hr
    rw [hrun]
    exact ⟨rfl, rfl, .inr ⟨⟨r, hmem, hnot⟩, rfl, rfl⟩⟩

/-- A definition of a rule that is registered for the end of an order. -/
def closingDefinition : Value :=
  .mapping [
    ("id", .text "closing"), ("name", .text "Closing"), ("priority", .int 5),
    ("trigger_event", .text "order.close"),
    ("actions", .list [
      .mapping [("type", .text "set_field"), ("field", .text "fee"), ("value", .int 0)]])]

/-- The tied rules with an inactive rule in front of them and one for another event in between. -/
def accompaniedDefinitions : List Value :=
  [feeDefinition "idle" 5 9 false, feeDefinition "first" 5 1 true, closingDefinition,
    feeDefinition "second" 5 2 true]

/-- The evaluation of the tied rules, with and without the rules that stand by. -/
theorem evaluateContext_bystanders_tied :
    (readable .epoch accompaniedDefinitions).length = 4 ∧
    (∀ r ∈ readable .epoch accompaniedDefinitions, r.IsRead) ∧
    (∀ r ∈ readable .epoch accompaniedDefinitions, r.IsLabelled orderContext) ∧
    (Value.text "manual").isTruthy = true ∧
    (∀ p ∈ (readable .epoch accompaniedDefinitions).zipIdx, (p.2 % 2 == 0) = true →
      p.1.IsBystander (.text "manual")) ∧
    ∃ e f,
      ((⟨some .silent, some (.ofService "rules")⟩ : Engine).evaluateContext .one
        ((readable .epoch accompaniedDefinitions).map .rule)
        (.mapping [("entity", .mapping [("total", .int 10)])]) (.text "manual") true).outcome =
          .ok e ∧
      ((⟨some .silent, some (.ofService "rules")⟩ : Engine).evaluateContext .zero
        ((Rule.besides (· % 2 == 0) (readable .epoch accompaniedDefinitions)).map .rule)
        (.mapping [("entity", .mapping [("total", .int 10)])]) (.text "manual") true).outcome =
          .ok f ∧
      e.merged = f.merged := by
  have hlength : (readable .epoch accompaniedDefinitions).length = 4 := by decide +kernel
  have hread : ∀ r ∈ readable .epoch accompaniedDefinitions, r.IsRead :=
    fun _ hr => Rule.isRead_of_mem_readable hr
  have hadded : ∀ p ∈ (readable .epoch accompaniedDefinitions).zipIdx, (p.2 % 2 == 0) = true →
      p.1.IsBystander (.text "manual") := by
    decide +kernel
  have hevent : (Value.text "manual").isTruthy = true := by decide
  have hlabelled : ∀ r ∈ readable .epoch accompaniedDefinitions, r.IsLabelled orderContext := by
    decide +kernel
  obtain ⟨-, -, ⟨e, f, -, he, hf, hmerged, -⟩ | ⟨⟨r, hr, hnot⟩, -⟩⟩ :=
    (⟨some .silent, some (.ofService "rules")⟩ : Engine).evaluateContext_bystanders .one .zero hread
      hevent (· % 2 == 0) hadded [("entity", .mapping [("total", .int 10)])] true
  · exact ⟨hlength, hread, hlabelled, hevent, hadded, e, f, he, hf, hmerged⟩
  · exact absurd (hlabelled r hr) hnot

end Rulebook
