import Rulebook.Proofs.Counting
import Rulebook.Service

/-!
# How Metrics Grow

Two logs of one service may hold different things and still grow alike: what happens in the service
adds the same entries to the counters of both. This module shows it of every recording that the
service makes. What is added are whole numbers, and ones except for matched rules, so that in the
end the order in which they were added does not show.

## Main definitions

* `MetricEntry.IsCount`: an entry that adds a whole number, and one unless it counts matched rules.
* `GrowAlike`: from two logs on, the same entries are added to the counters.

## Main results

* `GrowAlike.trans`: logs that grow alike step by step grow alike.
* `growAlike_recordEvaluation`, `growAlike_recordHttpRequest` and the others: what is recorded grows
  logs alike, however long it took.
* `MetricsLog.counters_alike_of_perm`: counters with the same entries in any order show the same.
-/

namespace Rulebook

/-! ### Counts -/

namespace MetricEntry

/-- An entry **counts**: it adds a whole number, and one unless it counts matched rules. -/
structure IsCount (e : MetricEntry) : Prop where
  whole : ∃ k, e.amount = .ofNat k
  one : e.metric ≠ .rulesMatched → e.amount = .one

theorem isCount_one (metric : Metric) (labels : List String) :
    IsCount ⟨metric, labels, .one⟩ := by
  constructor
  · refine ⟨1, ?_⟩
    dsimp only
    rw [Binary64.one]
  · intro _
    dsimp only

end MetricEntry

/-- The counts of an evaluation count. -/
theorem Evaluation.isCount_of_mem_counts {e : Evaluation} {entry : MetricEntry}
    (h : entry ∈ e.counts) : entry.IsCount := by
  rw [counts] at h
  rcases List.mem_append.mp h with h | h
  · rcases List.mem_cons.mp h with rfl | h
    · exact MetricEntry.isCount_one _ _
    · rw [MetricsLog.matchedCounts] at h
      split at h
      · cases h
      · obtain ⟨x, hx, rfl⟩ := Option.map_eq_some_iff.mp (Option.mem_toList.mp h)
        rw [Binary64.ofInt?_natCast] at hx
        exact ⟨⟨_, (Binary64.finite?_eq_some_iff.mp hx).1.symm⟩, fun hother => absurd rfl hother⟩
  · obtain ⟨label, -, rfl⟩ := List.mem_map.mp h
    exact MetricEntry.isCount_one _ _

/-! ### Logs that grow -/

/-- A log grew: it is a later log of the same service, and some entries were added to its
counters. -/
structure MetricsLog.Grows (log after : MetricsLog) (share : List MetricEntry) : Prop where
  service : after.service = log.service
  counters : after.counters = log.counters ++ share

/-- Two logs **grow alike**: the same counts are added to the counters of both. -/
def GrowAlike (log after log' after' : MetricsLog) : Prop :=
  ∃ share, (∀ e ∈ share, e.IsCount) ∧ log.Grows after share ∧ log'.Grows after' share

namespace GrowAlike

variable {log after last log' after' last' : MetricsLog}

/-- Logs to which nothing is added grow alike. -/
theorem refl (log log' : MetricsLog) : GrowAlike log log log' log' := by
  refine ⟨[], ?_, ⟨rfl, (List.append_nil _).symm⟩, ⟨rfl, (List.append_nil _).symm⟩⟩
  intro e he
  cases he

/-- **Logs that grow alike step by step grow alike.** -/
theorem trans (h : GrowAlike log after log' after') (hlast : GrowAlike after last after' last') :
    GrowAlike log last log' last' := by
  obtain ⟨share, hcounts, hgrows, hgrows'⟩ := h
  obtain ⟨rest, hrest, hlater, hlater'⟩ := hlast
  refine ⟨share ++ rest, ?_, ⟨?_, ?_⟩, ⟨?_, ?_⟩⟩
  · intro e he
    rcases List.mem_append.mp he with he | he
    · exact hcounts e he
    · exact hrest e he
  · exact hlater.service.trans hgrows.service
  · rw [hlater.counters, hgrows.counters, List.append_assoc]
  · exact hlater'.service.trans hgrows'.service
  · rw [hlater'.counters, hgrows'.counters, List.append_assoc]

/-- Logs of one service that grow alike are again logs of one service. -/
theorem service_eq (h : GrowAlike log after log' after') (hlog : log.service = log'.service) :
    after.service = after'.service := by
  obtain ⟨share, -, hgrows, hgrows'⟩ := h
  rw [hgrows.service, hgrows'.service, hlog]

end GrowAlike

/-! ### Recordings -/

section Recordings

open MetricsLog Service

variable {log log' : MetricsLog}

theorem growAlike_count (log log' : MetricsLog) {metric : Metric}
    (hcounter : metric.isHistogram = false) (labels : List String) :
    GrowAlike log (log.count metric labels) log' (log'.count metric labels) :=
  ⟨[⟨metric, labels, .one⟩],
    fun _ he => List.mem_singleton.mp he ▸ MetricEntry.isCount_one metric labels,
    ⟨rfl, log.counters_count hcounter labels⟩, ⟨rfl, log'.counters_count hcounter labels⟩⟩

/-- What is observed does not show in the counters. -/
theorem growAlike_observe (log log' : MetricsLog) {metric : Metric}
    (hhistogram : metric.isHistogram = true) (labels : List String) (v v' : Value) :
    GrowAlike log (log.observe metric labels v).log log' (log'.observe metric labels v').log := by
  refine ⟨[], ?_, ⟨log.service_observe metric labels v, ?_⟩,
    ⟨log'.service_observe metric labels v', ?_⟩⟩
  · intro e he
    cases he
  · exact (log.counters_observe hhistogram labels v).trans (List.append_nil _).symm
  · exact (log'.counters_observe hhistogram labels v').trans (List.append_nil _).symm

theorem growAlike_recordHealthCheck (log log' : MetricsLog) (status : Value) :
    GrowAlike log (log.recordHealthCheck status) log' (log'.recordHealthCheck status) :=
  growAlike_count log log' rfl _

/-- An answered request is counted alike, however long it took. -/
theorem growAlike_recordHttpRequest (log log' : MetricsLog) (method endpoint status : Value)
    (duration duration' : Value) :
    GrowAlike log (log.recordHttpRequest method endpoint status duration).log
      log' (log'.recordHttpRequest method endpoint status duration').log :=
  (growAlike_count log log' rfl _).trans (growAlike_observe _ _ rfl _ _ _)

variable (hlog : log.service = log'.service)

include hlog

theorem growAlike_recordError (errorType service : Value) :
    GrowAlike log (log.recordError errorType service)
      log' (log'.recordError errorType service) := by
  rw [recordError, recordError, MetricsLog.serviceName, MetricsLog.serviceName, hlog]
  exact growAlike_count log log' rfl _

theorem growAlike_countEvent (event : String) :
    GrowAlike log (countEvent event log) log' (countEvent event log') := by
  rw [countEvent, countEvent, recordBusinessEvent, recordBusinessEvent, MetricsLog.serviceName,
    MetricsLog.serviceName, hlog]
  exact growAlike_count log log' rfl _

theorem growAlike_countNotifications (notified : List Value) :
    GrowAlike log (countNotifications notified log) log' (countNotifications notified log') := by
  induction notified generalizing log log' with
  | nil => exact .refl log log'
  | cons v rest ih =>
      have hfirst := growAlike_countEvent hlog "rule_notification"
      exact hfirst.trans (ih (hfirst.service_eq hlog))

/-- An evaluation is counted alike, however long it took. -/
theorem growAlike_recordEvaluation (e : Evaluation) (elapsed elapsed' : Binary64) :
    GrowAlike log (log.recordEvaluation e elapsed) log' (log'.recordEvaluation e elapsed') := by
  have hkeeps : log.keepsRules = log'.keepsRules := by rw [keepsRules, keepsRules, hlog]
  refine ⟨if log.keepsRules then e.counts else [], ?_, ?_, ?_⟩
  · intro entry hentry
    split at hentry
    · exact Evaluation.isCount_of_mem_counts hentry
    · cases hentry
  · exact ⟨log.service_recordEvaluation e elapsed, log.counters_recordEvaluation_eq e elapsed⟩
  · rw [hkeeps]
    exact ⟨log'.service_recordEvaluation e elapsed', log'.counters_recordEvaluation_eq e elapsed'⟩

end Recordings

/-! ### Counters in any order -/

namespace MetricsLog

variable {log log' : MetricsLog} {metric : Metric} {labels : List String}

/-- Entries that count add whole numbers to a metric. -/
theorem exists_amountsOf_eq_map (metric : Metric) (labels : List String)
    {entries : List MetricEntry} (h : ∀ e ∈ entries, e.IsCount) :
    ∃ ks : List ℕ, amountsOf metric labels entries = ks.map .ofNat := by
  induction entries with
  | nil => exact ⟨[], rfl⟩
  | cons e rest ih =>
      obtain ⟨he, hrest⟩ := List.forall_mem_cons.mp h
      obtain ⟨k, hk⟩ := he.whole
      obtain ⟨ks, hks⟩ := ih hrest
      rw [amountsOf] at hks
      rw [amountsOf, List.filter_cons]
      split
      · exact ⟨k :: ks, by rw [List.map_cons, List.map_cons, hk, hks]⟩
      · exact ⟨ks, hks⟩

/-- Entries that count add ones to a metric that does not count matched rules. -/
theorem amountsOf_eq_replicate (labels : List String) {entries : List MetricEntry}
    (h : ∀ e ∈ entries, e.IsCount)
    (hmetric : metric ≠ .rulesMatched) :
    amountsOf metric labels entries =
      List.replicate (amountsOf metric labels entries).length .one := by
  refine List.eq_replicate_of_mem fun x hx => ?_
  obtain ⟨e, he, rfl⟩ := List.mem_map.mp hx
  obtain ⟨hmem, hof⟩ := List.mem_filter.mp he
  refine (h e hmem).one ?_
  rw [(of_decide_eq_true hof).1]
  exact hmetric

/-- **Counters with the same counts in any order show the same.** The amounts that were added to a
counter are the same, and they sum up to one number, where nothing has to be rounded and also, of
amounts that are all one, beyond that. -/
theorem counters_alike_of_perm (h : ∀ e ∈ log.counters, e.IsCount)
    (hperm : log.counters.Perm log'.counters) (hcounter : metric.isHistogram = false)
    (labels : List String) :
    (log.amounts metric labels).Perm (log'.amounts metric labels) ∧
    (∃ n, log.CountsTo metric labels n ∧ log'.CountsTo metric labels n) ∧
    (metric ≠ .rulesMatched → log.total metric labels = log'.total metric labels) := by
  have h' : ∀ e ∈ log'.counters, e.IsCount := fun e he => h e (hperm.mem_iff.mpr he)
  have hamounts : (log.amounts metric labels).Perm (log'.amounts metric labels) := by
    rw [amounts_eq_counters log hcounter, amounts_eq_counters log' hcounter]
    exact (hperm.filter _).map _
  refine ⟨hamounts, ?_, ?_⟩
  · obtain ⟨ks, hks⟩ := exists_amountsOf_eq_map metric labels h
    rw [← amounts_eq_counters log hcounter] at hks
    -- The whole numbers stand in the order of the other log's amounts as well.
    have hpairs : List.Forall₂ (fun x k => x = Binary64.ofNat k)
        (log.amounts metric labels) ks := by
      rw [hks, List.forall₂_map_left_iff, List.forall₂_same]
      exact fun _ _ => rfl
    obtain ⟨ks', hpairs', hpermuted⟩ := List.perm_comp_forall₂ hamounts.symm hpairs
    have hks' : log'.amounts metric labels = ks'.map .ofNat := by
      rw [← List.forall₂_eq_eq_eq, List.forall₂_map_right_iff]
      exact hpairs'
    have hcounts' := countsTo_of_amounts hks'
    rw [hpermuted.sum_eq] at hcounts'
    exact ⟨ks.sum, countsTo_of_amounts hks, hcounts'⟩
  · intro hmetric
    have hones := amountsOf_eq_replicate labels h hmetric
    have hones' := amountsOf_eq_replicate labels h' hmetric
    rw [← amounts_eq_counters _ hcounter] at hones hones'
    rw [total, total, hones, hones', hamounts.length_eq]

end MetricsLog

end Rulebook
