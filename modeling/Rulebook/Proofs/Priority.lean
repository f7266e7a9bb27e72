import Rulebook.Proofs.Reading
import Rulebook.RuleSet

/-!
# The Order of Evaluation

Rules are evaluated in the order of their **ranks**, the numbers that their priorities count as.
This module shows that the order is determined by two demands, that ranks ascend and that rules of
one rank keep their places, and that sorting meets both of them. To tell apart rules that are equal,
each rule is taken with its place in the set.

## Main definitions

* `Rule.rank`: the number a rule is sorted by.
* `Rule.InOrder`: the rules of a set with their places, in the order of evaluation.
* `Rule.arranged`: the rules of a set in the order of evaluation.

## Main results

* `Rule.existsUnique_inOrder`: the two demands are met by one arrangement of a set of rules.
* `Rule.InOrder.map_fst`: that arrangement is the one that sorting gives.
* `Candidate.inOrder_rules`: rules that were read are evaluated in this order.
-/

namespace Rulebook

/-! ### Numbers on the line -/

namespace Binary64

variable {x y z : Binary64}

/-- A number that is not a NaN stands somewhere on the line. -/
theorem exists_position? (h : x.isNaN = false) : ∃ a, x.position? = some a := by
  cases x with
  | nan => cases h
  | infinite s => exact ⟨_, rfl⟩
  | finite s m => exact ⟨_, rfl⟩

/-- The order of numbers is the order of their positions on the line. -/
theorem le_eq_of_position? {a b : Int} (hx : x.position? = some a) (hy : y.position? = some b) :
    x.le y = decide (a ≤ b) := by
  rw [le, hx, hy]

/-- The strict order of numbers is the strict order of their positions on the line. -/
theorem lt_eq_of_position? {a b : Int} (hx : x.position? = some a) (hy : y.position? = some b) :
    x.lt y = decide (a < b) := by
  rw [lt, hx, hy]

/-- Two numbers are the same when they stand at one position on the line. -/
theorem sameNumber_eq_of_position? {a b : Int} (hx : x.position? = some a)
    (hy : y.position? = some b) : x.sameNumber y = decide (a = b) := by
  rw [sameNumber, hx, hy]

/-- Numbers that are compared successfully are not NaNs. -/
theorem exists_position?_of_le (h : x.le y = true) :
    ∃ a b, x.position? = some a ∧ y.position? = some b ∧ a ≤ b := by
  rw [le] at h
  split at h
  · next a b hx hy => exact ⟨a, b, hx, hy, of_decide_eq_true h⟩
  · cases h

theorem le_trans (hxy : x.le y = true) (hyz : y.le z = true) : x.le z = true := by
  obtain ⟨a, b, hx, hy, hab⟩ := exists_position?_of_le hxy
  obtain ⟨b', c, hy', hz, hbc⟩ := exists_position?_of_le hyz
  obtain rfl : b = b' := Option.some.inj (hy.symm.trans hy')
  rw [le_eq_of_position? hx hz]
  exact decide_eq_true (Int.le_trans hab hbc)

/-- Of two numbers that are not NaNs, one is at most the other. -/
theorem le_total (hx : x.isNaN = false) (hy : y.isNaN = false) : (x.le y || y.le x) = true := by
  obtain ⟨a, ha⟩ := exists_position? hx
  obtain ⟨b, hb⟩ := exists_position? hy
  rw [le_eq_of_position? ha hb, le_eq_of_position? hb ha, Bool.or_eq_true, decide_eq_true_eq,
    decide_eq_true_eq]
  exact Int.le_total a b

/-- A finite number is not a NaN. -/
theorem isNaN_of_isFinite (h : x.isFinite = true) : x.isNaN = false := by
  cases x with
  | nan => cases h
  | infinite s => cases h
  | finite s m => rfl

end Binary64

namespace Rule

/-! ### Ranks -/

/-- The number that a rule is sorted by. -/
def rank (r : Rule) : Binary64 := (Candidate.rule r).sortKey.toOption.getD (.infinite false)

/-- The rank of a rule whose priority counts as a number, with a NaN as the greatest rank. -/
theorem rank_eq_of_toNumber {r : Rule} {x : Binary64} (h : r.priority.toNumber = .ok x) :
    r.rank = if x.isNaN then .infinite false else x := by
  simp [rank, Candidate.sortKey, h, Except.map, Except.toOption]

/-- No rank is a NaN. -/
theorem isNaN_rank (r : Rule) : r.rank.isNaN = false := by
  cases h : r.priority.toNumber with
  | error fault =>
      have hrank : r.rank = .infinite false := by
        simp [rank, Candidate.sortKey, h, Except.map, Except.toOption]
      rw [hrank]
      rfl
  | ok x =>
      rw [rank_eq_of_toNumber h]
      split
      · rfl
      · next hx => exact Bool.eq_false_iff.mpr hx

/-- A rule that was read has its priority as its rank. -/
theorem IsRead.toNumber_priority {r : Rule} (h : r.IsRead) : r.priority.toNumber = .ok r.rank := by
  obtain ⟨x, hx, hfinite⟩ := h.priority_finite
  rw [hx, rank_eq_of_toNumber hx, Binary64.isNaN_of_isFinite hfinite]
  rfl

/-- A rule that was read is sorted by its rank. -/
theorem IsRead.sortKey_eq {r : Rule} (h : r.IsRead) :
    (Candidate.rule r).sortKey = .ok r.rank := by
  rw [Candidate.sortKey, h.toNumber_priority, Except.map, if_neg]
  simp [r.isNaN_rank]

/-! ### The order and its uniqueness -/

/-- Of two rules with their places, the first comes before the second: it has the smaller rank, or
it stands earlier and the ranks are the same. -/
def Before (a b : Rule × ℕ) : Prop :=
  a.1.rank.lt b.1.rank = true ∨ (a.1.rank.sameNumber b.1.rank = true ∧ a.2 < b.2)

/-- The rules of a set, each with its place in it, in the order of evaluation. -/
structure InOrder (rules : List Rule) (ordered : List (Rule × ℕ)) : Prop where
  /-- Every rule of the set stands there once. -/
  perm : ordered.Perm rules.zipIdx
  /-- Ranks ascend, and rules of one rank keep their places. -/
  sorted : ordered.Pairwise Before

/-- Has a rule at most the rank of another one? -/
def ranksBefore (r s : Rule) : Bool := r.rank.le s.rank

/-- The rules of a set in the order of evaluation. -/
def arranged (rules : List Rule) : List Rule := rules.mergeSort ranksBefore

theorem mem_of_getElem?_arranged {rules : List Rule} {n : ℕ} {r : Rule}
    (h : (arranged rules)[n]? = some r) : r ∈ rules :=
  List.mem_mergeSort.mp (List.mem_of_getElem? h)

theorem ranksBefore_trans (q r s : Rule) (hqr : ranksBefore q r = true)
    (hrs : ranksBefore r s = true) : ranksBefore q s = true :=
  Binary64.le_trans hqr hrs

theorem ranksBefore_total (r s : Rule) : (ranksBefore r s || ranksBefore s r) = true :=
  Binary64.le_total r.isNaN_rank s.isNaN_rank

/-- No two rules come before each other. -/
theorem Before.asymm {a b : Rule × ℕ} (hab : Before a b) (hba : Before b a) : False := by
  obtain ⟨p, hp⟩ := Binary64.exists_position? a.1.isNaN_rank
  obtain ⟨q, hq⟩ := Binary64.exists_position? b.1.isNaN_rank
  simp only [Before, Binary64.lt_eq_of_position? hp hq, Binary64.lt_eq_of_position? hq hp,
    Binary64.sameNumber_eq_of_position? hp hq, Binary64.sameNumber_eq_of_position? hq hp,
    decide_eq_true_eq] at hab hba
  omega

/-- At different places, the order of ranks and then of places is the order of evaluation. -/
theorem before_of_zipIdxLE {a b : Rule × ℕ} (h : List.zipIdxLE ranksBefore a b = true)
    (hne : a.2 ≠ b.2) : Before a b := by
  obtain ⟨p, hp⟩ := Binary64.exists_position? a.1.isNaN_rank
  obtain ⟨q, hq⟩ := Binary64.exists_position? b.1.isNaN_rank
  simp only [List.zipIdxLE, ranksBefore, Binary64.le_eq_of_position? hp hq,
    Binary64.le_eq_of_position? hq hp, decide_eq_true_eq] at h
  simp only [Before, Binary64.lt_eq_of_position? hp hq,
    Binary64.sameNumber_eq_of_position? hp hq, decide_eq_true_eq]
  split at h
  · split at h
    · have := of_decide_eq_true h
      omega
    · omega
  · cases h

/-- Sorting rules with their places meets both demands. -/
theorem inOrder_mergeSort (rules : List Rule) :
    InOrder rules (rules.zipIdx.mergeSort (List.zipIdxLE ranksBefore)) where
  perm := List.mergeSort_perm _ _
  sorted := by
    have hsorted : (rules.zipIdx.mergeSort (List.zipIdxLE ranksBefore)).Pairwise
        fun a b => List.zipIdxLE ranksBefore a b = true :=
      List.pairwise_mergeSort (List.zipIdxLE_trans ranksBefore_trans)
        (List.zipIdxLE_total ranksBefore_total) _
    have hplaces : (rules.zipIdx.mergeSort (List.zipIdxLE ranksBefore)).Pairwise
        fun a b => a.2 ≠ b.2 := by
      have hnodup : (rules.zipIdx.map Prod.snd).Nodup := by
        rw [List.zipIdx_map_snd]
        exact List.nodup_range'
      exact List.pairwise_map.mp
        (((List.mergeSort_perm _ _).map Prod.snd).symm.nodup hnodup)
    exact hsorted.imp₂ (fun _ _ => before_of_zipIdxLE) hplaces

/-- **The order of evaluation is determined**: one arrangement of a set of rules has ascending ranks
and keeps the places of rules of one rank. -/
theorem existsUnique_inOrder (rules : List Rule) : ∃! ordered, InOrder rules ordered := by
  refine ⟨_, inOrder_mergeSort rules, ?_⟩
  intro other hother
  exact List.Perm.eq_of_pairwise (fun _ _ _ _ hab hba => (hab.asymm hba).elim) hother.sorted
    (inOrder_mergeSort rules).sorted (hother.perm.trans (inOrder_mergeSort rules).perm.symm)

/-- The order of evaluation is the one that sorting gives. -/
theorem InOrder.map_fst {rules : List Rule} {ordered : List (Rule × ℕ)}
    (h : InOrder rules ordered) : ordered.map Prod.fst = arranged rules := by
  rw [(existsUnique_inOrder rules).unique h (inOrder_mergeSort rules)]
  exact List.mergeSort_zipIdx

end Rule

/-- **Rules that were read are evaluated in the order of their ranks.** -/
theorem Candidate.inOrder_rules {rules : List Rule} (h : ∀ r ∈ rules, r.IsRead) :
    Candidate.inOrder (rules.map .rule) = .ok ((Rule.arranged rules).map .rule) := by
  let ranked : Rule → Binary64 × Candidate := fun r => (r.rank, .rule r)
  have hkeyed : (rules.map Candidate.rule).mapM Candidate.keyed = .ok (rules.map ranked) := by
    rw [List.mapM_map]
    refine mapM_eq_ok_map fun r hr => ?_
    simp only [Function.comp_apply, Candidate.keyed, (h r hr).sortKey_eq]
    rfl
  have hsorted : Candidate.sortKeyed (rules.map ranked) = (Rule.arranged rules).map ranked :=
    (List.map_mergeSort (r := Rule.ranksBefore) (f := ranked) fun _ _ _ _ => rfl).symm
  rw [Candidate.inOrder, hkeyed, Except.map, hsorted, List.map_map]
  rfl

end Rulebook
