import Mathlib.Algebra.BigOperators.Group.List.Basic
import Mathlib.Algebra.GroupWithZero.Nat
import Rulebook.Engine
import Rulebook.Proofs.Rounding

/-!
# Counters

The counters of a service hold binary64 numbers, which are exact as long as they count: up to `2⁵³`
a sum of whole numbers is the whole number that it should be. So a counter may be read as a natural
number, and what a recording adds to the counters may be written down apart from the observations
of durations that go with it.

## Main definitions

* `MetricsLog.counters`: the entries of a log without its observations.
* `MetricsLog.CountsTo`: a counter stands at a natural number.
* `Evaluation.counts`: what the evaluation of a rule set adds to the counters.

## Main results

* `Binary64.sum_ofNat`: sums of whole numbers are exact.
* `MetricsLog.counters_recordEvaluation`: recording an evaluation adds its counts, and nothing else,
  to the counters.
-/

namespace Rulebook

/-! ### Whole numbers -/

namespace Binary64

/-- The whole numbers up to this one stand for themselves. -/
def exactBound : ℕ := Nat.pow 2 53

theorem mul_pow_two_lt {n a b : ℕ} (c : ℕ) (h : n ≤ Nat.pow 2 a) (hab : a < b) :
    n * Nat.pow 2 c < Nat.pow 2 (b + c) := by
  change n * 2 ^ c < 2 ^ (b + c)
  have hn : n < 2 ^ b := Nat.lt_of_le_of_lt h (Nat.pow_lt_pow_right (by omega) hab)
  rw [Nat.pow_add]
  exact Nat.mul_lt_mul_of_pos_right hn (Nat.two_pow_pos c)

theorem representable_mul_unitsPerOne {n : ℕ} (h : n ≤ exactBound) :
    Representable (n * unitsPerOne) := by
  unfold unitsPerOne
  exact representable_mul_pow unitExponent h

/-- A whole number within the bound is not rounded. -/
theorem exists_magnitude_ofNat {n : ℕ} (h : n ≤ exactBound) :
    ∃ m : Magnitude, m.units = n * unitsPerOne ∧ ofNat n = .finite false m := by
  have hbounded : n * unitsPerOne < overflowUnits := by
    unfold unitsPerOne overflowUnits overflowExponent
    exact mul_pow_two_lt unitExponent h (by decide)
  exact round_of_lt false (roundUnits_one (representable_mul_unitsPerOne h)) hbounded

/-- The whole number zero is zero. -/
theorem ofNat_zero : ofNat 0 = zero := by
  obtain ⟨m, hm, h⟩ := exists_magnitude_ofNat (Nat.zero_le exactBound)
  rw [h, Magnitude.eq_of_units (n := .zero) (hm.trans (Nat.zero_mul _)), zero]

/-- A sum of two whole numbers is exact. -/
theorem add_ofNat {a b : ℕ} (h : a + b ≤ exactBound) : (ofNat a).add (ofNat b) = ofNat (a + b) := by
  obtain ⟨m, hm, ha⟩ := exists_magnitude_ofNat (Nat.le_of_add_right_le h)
  obtain ⟨n, hn, hb⟩ := exists_magnitude_ofNat (Nat.le_of_add_left_le h)
  have hsum : signed false m.units + signed false n.units = (((a + b) * unitsPerOne : ℕ) : ℤ) := by
    simp only [signed, hm, hn, Nat.add_mul, Int.natCast_add, Bool.false_eq_true, if_false]
  rw [ha, hb, add]
  simp only [hsum]
  split
  · next hzero =>
      have hnone : a + b = 0 :=
        (Nat.mul_eq_zero.mp (Int.natCast_eq_zero.mp hzero)).resolve_right
          (Nat.ne_of_gt unitsPerOne_pos)
      rw [hnone, ofNat_zero]
      rfl
  · rw [ofNat, Int.natAbs_natCast, decide_eq_false (Int.not_lt.mpr (Int.natCast_nonneg _))]

/-- **Sums of whole numbers are exact** as long as they stay within the bound. -/
theorem sum_ofNat {ks : List ℕ} (h : ks.sum ≤ exactBound) :
    sum (ks.map ofNat) = ofNat ks.sum := by
  suffices hfrom : ∀ n, n + ks.sum ≤ exactBound →
      (ks.map ofNat).foldl add (ofNat n) = ofNat (n + ks.sum) by
    have hzero := hfrom 0 (by omega)
    rwa [ofNat_zero, Nat.zero_add] at hzero
  intro n hn
  induction ks generalizing n with
  | nil => rw [List.map_nil, List.foldl_nil, List.sum_nil, Nat.add_zero]
  | cons k ks ih =>
      rw [List.sum_cons] at h hn ⊢
      rw [List.map_cons, List.foldl_cons, add_ofNat (by omega), ih (by omega) _ (by omega),
        Nat.add_assoc]

/-- A natural number is rounded as a whole number, if it is not too large for one. -/
theorem ofInt?_natCast (n : ℕ) : ofInt? n = (ofNat n).finite? := by
  rw [ofInt?, ofNat, Int.natAbs_natCast,
    decide_eq_false (Int.not_lt.mpr (Int.natCast_nonneg n))]

/-- Within the bound it is not rounded. -/
theorem ofInt?_of_le {n : ℕ} (h : n ≤ exactBound) : ofInt? n = some (ofNat n) := by
  obtain ⟨m, -, hm⟩ := exists_magnitude_ofNat h
  rw [ofInt?_natCast, hm]
  rfl

end Binary64

/-! ### Counters -/

namespace MetricsLog

/-- The entries that add to counters: all but the observations. -/
def counters (log : MetricsLog) : List MetricEntry :=
  log.entries.filter fun e => !e.metric.isHistogram

/-- The amounts that some entries add to a metric under some labels. -/
def amountsOf (metric : Metric) (labels : List String) (entries : List MetricEntry) :
    List Binary64 :=
  (entries.filter fun e => e.metric = metric ∧ e.labels = labels).map (·.amount)

theorem amountsOf_append (metric : Metric) (labels : List String) (es fs : List MetricEntry) :
    amountsOf metric labels (es ++ fs) =
      amountsOf metric labels es ++ amountsOf metric labels fs := by
  rw [amountsOf, List.filter_append, List.map_append]
  rfl

/-- The amounts of a counter are those of its entries among the counters. -/
theorem amounts_eq_counters (log : MetricsLog) {metric : Metric} (h : metric.isHistogram = false)
    (labels : List String) : log.amounts metric labels = amountsOf metric labels log.counters := by
  rw [amounts, amountsOf, counters, List.filter_filter]
  congr 1
  refine List.filter_congr fun e _ => ?_
  by_cases hmetric : e.metric = metric
  · simp [hmetric, h]
  · simp [hmetric]

/-- A counter **stands at a natural number**: the whole numbers added to it sum up to that number,
and so does the total that it shows, as long as binary64 numbers are exact. -/
structure CountsTo (log : MetricsLog) (metric : Metric) (labels : List String) (n : ℕ) : Prop where
  /-- The whole numbers that were added. -/
  amounts : ∃ ks : List ℕ, log.amounts metric labels = ks.map .ofNat ∧ ks.sum = n
  /-- The total that is shown. -/
  total : n ≤ Binary64.exactBound → log.total metric labels = .ofNat n

/-- A counter to which whole numbers were added stands at their sum. -/
theorem countsTo_of_amounts {log : MetricsLog} {metric : Metric} {labels : List String}
    {ks : List ℕ} (h : log.amounts metric labels = ks.map .ofNat) :
    log.CountsTo metric labels ks.sum where
  amounts := ⟨ks, h, rfl⟩
  total hbound := by rw [total, h, Binary64.sum_ofNat hbound]

/-! ### Recordings -/

section Recordings

variable (log : MetricsLog)

@[simp] theorem service_add (metric : Metric) (labels : List String) (amount : Binary64) :
    (log.add metric labels amount).service = log.service := rfl

theorem counters_add (metric : Metric) (labels : List String) (amount : Binary64) :
    (log.add metric labels amount).counters =
      log.counters ++ if metric.isHistogram then [] else [⟨metric, labels, amount⟩] := by
  rw [counters, add, List.filter_append, ← counters]
  cases hmetric : metric.isHistogram with
  | true => simp [hmetric]
  | false => simp [hmetric]

/-- Counting adds one to a counter. -/
theorem counters_count {metric : Metric} (h : metric.isHistogram = false) (labels : List String) :
    (log.count metric labels).counters = log.counters ++ [⟨metric, labels, .one⟩] := by
  rw [count, counters_add, h]
  rfl

/-- Observing a number changes no counter. -/
theorem counters_observe {metric : Metric} (h : metric.isHistogram = true) (labels : List String)
    (v : Value) : (log.observe metric labels v).log.counters = log.counters := by
  rw [observe]
  split
  · rw [Recording.done, counters_add, h, if_pos rfl, List.append_nil]
  · rfl

theorem service_observe (metric : Metric) (labels : List String) (v : Value) :
    (log.observe metric labels v).log.service = log.service := by
  rw [observe]
  split
  · rfl
  · rfl

/-- Increasing a counter by a natural number adds that number, if it is not too large for one. -/
theorem counters_increase {metric : Metric} (h : metric.isHistogram = false) (labels : List String)
    (n : ℕ) :
    (log.increase metric labels (.int n)).log.counters =
      log.counters ++ ((Binary64.ofInt? n).map fun x => ⟨metric, labels, x⟩).toList := by
  have hnegative : isNegative (.int n) = false :=
    decide_eq_false (Int.not_lt.mpr (Int.natCast_nonneg n))
  rw [increase, hnegative, amountOf, Value.toNumber, Numeral.ofInt]
  cases Binary64.ofInt? n with
  | none => exact (List.append_nil _).symm
  | some x =>
      refine (counters_add log _ _ _).trans ?_
      rw [h]
      rfl

theorem service_increase (metric : Metric) (labels : List String) (v : Value) :
    (log.increase metric labels v).log.service = log.service := by
  rw [increase]
  split
  · rfl
  · split
    · rfl
    · rfl

/-- Going on to observe a number changes no counter. -/
theorem counters_next_observe (r : Recording) {metric : Metric} (h : metric.isHistogram = true)
    (labels : List String) (v : Value) :
    (r.next (observe metric labels v)).log.counters = r.log.counters := by
  rw [Recording.next]
  split
  · exact counters_observe r.log h labels v
  · rfl

theorem service_next_observe (r : Recording) (metric : Metric) (labels : List String) (v : Value) :
    (r.next (observe metric labels v)).log.service = r.log.service := by
  rw [Recording.next]
  split
  · exact service_observe r.log metric labels v
  · rfl

/-! ### Recording evaluations -/

/-- What recording a number of matched rules adds to the counters. -/
def matchedCounts (n : ℕ) : List MetricEntry :=
  if n = 0 then [] else ((Binary64.ofInt? n).map fun x => ⟨.rulesMatched, [], x⟩).toList

/-- The evaluation of a rule set adds to the counters of outcomes and of matched rules. -/
theorem counters_recordRuleEvaluation (h : log.keepsRules = true) (outcome : String) (n : ℕ)
    (elapsed : Binary64) :
    (log.recordRuleEvaluation (.text outcome) (.int n) (.float elapsed)).log.counters =
      log.counters ++ ⟨.ruleEvaluations, [outcome], .one⟩ :: matchedCounts n := by
  have hcount : (log.count .ruleEvaluations [outcome]).counters =
      log.counters ++ [⟨.ruleEvaluations, [outcome], .one⟩] := log.counters_count rfl [outcome]
  have htruthy : (Value.int n).isTruthy = true ↔ n ≠ 0 := by simp [Value.isTruthy]
  rw [recordRuleEvaluation, if_pos h, counters_next_observe _ rfl, matchedCounts, List.append_cons]
  by_cases hn : n = 0
  · rw [if_neg (mt htruthy.mp (not_not_intro hn)), if_pos hn, List.append_nil]
    exact hcount
  · rw [if_pos (htruthy.mpr hn), if_neg hn, counters_increase _ rfl, ← hcount]
    rfl

theorem service_recordRuleEvaluation (outcome matched duration : Value) :
    (log.recordRuleEvaluation outcome matched duration).log.service = log.service := by
  rw [recordRuleEvaluation]
  split
  · rw [service_next_observe]
    split
    · exact service_increase _ _ _ _
    · rfl
  · rfl

theorem service_recordActionFailure (actionType : Value) :
    (log.recordActionFailure actionType).service = log.service := by
  rw [recordActionFailure]
  split
  · rfl
  · rfl

/-- Actions that failed add to their counters. -/
theorem counters_recordActionFailures (h : log.keepsRules = true) (labels : List String) :
    (labels.foldl (fun log label => log.recordActionFailure (.text label)) log).counters =
      log.counters ++ labels.map fun label => ⟨.actionFailures, [label], .one⟩ := by
  induction labels generalizing log with
  | nil => exact (List.append_nil _).symm
  | cons label labels ih =>
      have hfirst : log.recordActionFailure (.text label) = log.count .actionFailures [label] :=
        if_pos h
      rw [List.foldl_cons, hfirst, ih (log.count .actionFailures [label]) h, counters_count _ rfl,
        List.append_assoc]
      rfl

theorem service_recordActionFailures (labels : List String) :
    (labels.foldl (fun log label => log.recordActionFailure (.text label)) log).service =
      log.service := by
  induction labels generalizing log with
  | nil => rfl
  | cons label labels ih => rw [List.foldl_cons, ih, service_recordActionFailure]

end Recordings

end MetricsLog

/-- What an evaluation adds to the counters of a service that keeps them. -/
def Evaluation.counts (e : Evaluation) : List MetricEntry :=
  ⟨.ruleEvaluations, [MetricsLog.outcomeText e.merged.isValid], .one⟩ ::
    MetricsLog.matchedCounts e.merged.matched ++
      e.failures.map fun label => ⟨.actionFailures, [label], .one⟩

namespace MetricsLog

variable (log : MetricsLog) (e : Evaluation) (elapsed : Binary64)

theorem service_recordEvaluation : (log.recordEvaluation e elapsed).service = log.service := by
  rw [recordEvaluation, service_recordActionFailures, service_recordRuleEvaluation]

/-- **Recording an evaluation adds its counts to the counters**, and nothing else. -/
theorem counters_recordEvaluation (h : log.keepsRules = true) :
    (log.recordEvaluation e elapsed).counters = log.counters ++ e.counts := by
  have hkeeps : ((log.recordRuleEvaluation (.text (outcomeText e.merged.isValid))
      (.int e.merged.matched) (.float elapsed)).log).keepsRules = true := by
    rw [keepsRules, service_recordRuleEvaluation]
    exact h
  rw [recordEvaluation, counters_recordActionFailures _ hkeeps, counters_recordRuleEvaluation _ h,
    List.append_assoc]
  rfl

/-- A service that evaluates no rules records nothing of them. -/
theorem recordEvaluation_of_not_keepsRules (h : log.keepsRules = false) :
    log.recordEvaluation e elapsed = log := by
  have hone : ∀ v, log.recordActionFailure v = log := fun v => by rw [recordActionFailure, h]; rfl
  have hall : ∀ labels : List String,
      labels.foldl (fun log label => log.recordActionFailure (.text label)) log = log := by
    intro labels
    induction labels with
    | nil => rfl
    | cons label labels ih => rw [List.foldl_cons, hone, ih]
  rw [recordEvaluation, recordRuleEvaluation, h]
  exact hall _

/-- What recording an evaluation adds to the counters depends on the log alone in whether it is
anything. -/
theorem counters_recordEvaluation_eq :
    (log.recordEvaluation e elapsed).counters =
      log.counters ++ if log.keepsRules then e.counts else [] := by
  cases h : log.keepsRules with
  | true => exact counters_recordEvaluation log e elapsed h
  | false => rw [recordEvaluation_of_not_keepsRules log e elapsed h]; simp

end MetricsLog

/-- Evaluations with one count add the same to the counters of an engine, however long they
take. -/
theorem Engine.counters_record_congr (engine : Engine) (elapsed elapsed' : Binary64)
    {e f : Evaluation} (h : e.counts = f.counts) :
    (engine.record elapsed e).metrics.map (·.counters) =
      (engine.record elapsed' f).metrics.map (·.counters) := by
  simp only [record, Option.map_map, Function.comp_def, MetricsLog.counters_recordEvaluation_eq, h]

end Rulebook
