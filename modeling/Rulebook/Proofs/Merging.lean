import Rulebook.Proofs.Fusion

/-!
# What Merged Results Hold

Merging writes the values of the matched results one over the other. What it leaves under a key is
therefore decided by one result alone: the last matched one that holds anything under that key. This
holds of every key, the one of the workflows included, and it does not ask which actions the values
come from.

## Main definitions

* `Ledger.Apart`: no key stands in both of two ledgers.
* `Result.held?`: what a result holds under a key.
* `Merged.take`: a matched result taken in.

## Main results

* `Ledger.get?_update`: an updated ledger holds what it is updated by, and its own where that holds
  nothing.
* `Ledger.Apart.update_eq`: an update by a ledger with no key in common puts its entries at the end.
* `Merged.get?_ofResults`: merged results hold what the last matched result holds that holds
  anything.
* `Merged.errors_ofResults`, `Merged.matched_ofResults`: the errors of the matched results, and how
  many of them there are.
* `Merged.ofResults_singleton`: what one result comes to.
-/

namespace Rulebook

open Value (IsKey)

/-! ### Updates -/

namespace Ledger

variable {es fs : List (Value × Value)} {key : Value}

/-- Nothing is found under a key that no entry has. -/
theorem find?_eq_none (h : ∀ e ∈ es, e.1.same key = false) : find? key es = none := by
  induction es with
  | nil => rfl
  | cons e rest ih =>
      obtain ⟨he, hrest⟩ := List.forall_mem_cons.mp h
      rw [find?_cons_of_not_same he, ih hrest]

/-- What is found under a key is the value of an entry with an equal key. -/
theorem exists_of_find? {v : Value} (h : find? key es = some v) :
    ∃ e ∈ es, e.1.same key = true ∧ e.2 = v := by
  induction es with
  | nil => cases h
  | cons e rest ih =>
      cases hsame : e.1.same key with
      | true =>
          rw [find?, if_pos hsame] at h
          exact ⟨e, List.mem_cons_self, hsame, Option.some.inj h⟩
      | false =>
          rw [find?_cons_of_not_same hsame] at h
          obtain ⟨f, hf, hfound⟩ := ih h
          exact ⟨f, List.mem_cons_of_mem e hf, hfound⟩

/-- **An updated ledger holds what it is updated by**, and its own where that holds nothing. -/
theorem get?_update {l m : Ledger} (hl : Keyed l.entries) (hm : m.WellFormed) (key : Value) :
    (l.update m).get? key = (m.get? key).or (l.get? key) := by
  obtain ⟨es⟩ := m
  obtain ⟨hkeyed, hdistinct⟩ := hm
  rw [update_eq_writeAll]
  induction es generalizing l with
  | nil => rfl
  | cons e rest ih =>
      obtain ⟨he, hrest⟩ := keyed_cons.mp hkeyed
      obtain ⟨hfirst, hothers⟩ := List.pairwise_cons.mp hdistinct
      rw [writeAll_cons, ih (keyed_set hl he) hrest hothers, get?_set hl he]
      cases hsame : e.1.same key with
      | true =>
          -- The key stands nowhere else, so that the first write to it stays.
          have hnowhere : ∀ f ∈ rest, f.1.same key = false := by
            intro f hf
            cases hf' : f.1.same key with
            | false => rfl
            | true =>
                have hboth := Value.not_same_of_same he (hrest f hf) hsame (hfirst f hf)
                rw [hf'] at hboth
                cases hboth
          have hfound : (⟨e :: rest⟩ : Ledger).get? key = some e.2 := by
            rw [get?, find?, if_pos hsame]
          have hnone : (⟨rest⟩ : Ledger).get? key = none := find?_eq_none hnowhere
          rw [hfound, hnone]
          rfl
      | false =>
          have hskipped : (⟨e :: rest⟩ : Ledger).get? key = (⟨rest⟩ : Ledger).get? key :=
            find?_cons_of_not_same hsame
          rw [hskipped]
          rfl

/-- No key stands in both of two ledgers. -/
def Apart (l m : Ledger) : Prop := ∀ e ∈ l.entries, ∀ f ∈ m.entries, e.1.same f.1 = false

instance (l m : Ledger) : Decidable (l.Apart m) :=
  inferInstanceAs (Decidable (∀ e ∈ l.entries, ∀ f ∈ m.entries, e.1.same f.1 = false))

/-- Of two ledgers with no key in common, one holds nothing under a key. -/
theorem Apart.get?_eq_none {l m : Ledger} (hl : Keyed l.entries) (hm : Keyed m.entries)
    (h : l.Apart m) {v : Value} (hv : l.get? key = some v) : m.get? key = none := by
  obtain ⟨e, he, hsame, -⟩ := exists_of_find? hv
  refine find?_eq_none fun f hf => ?_
  exact Value.not_same_of_same (hl e he) (hm f hf) hsame (h e he f hf)

/-- A write under a new key goes to the end. -/
theorem write_of_new {k v : Value} (h : ∀ e ∈ es, e.1.same k = false) :
    write k v es = es ++ [(k, v)] := by
  induction es with
  | nil => rfl
  | cons e rest ih =>
      obtain ⟨he, hrest⟩ := List.forall_mem_cons.mp h
      rw [write_cons_of_not_same he, ih hrest, List.cons_append]

/-- **A ledger that is updated by one with no key in common** has the entries of both. -/
theorem Apart.update_eq {l m : Ledger} (h : l.Apart m) (hm : m.WellFormed) :
    l.update m = ⟨l.entries ++ m.entries⟩ := by
  obtain ⟨es⟩ := m
  obtain ⟨hkeyed, hdistinct⟩ := hm
  rw [update_eq_writeAll]
  induction es generalizing l with
  | nil => rw [writeAll_nil, List.append_nil]
  | cons e rest ih =>
      obtain ⟨-, hrest⟩ := keyed_cons.mp hkeyed
      obtain ⟨hfirst, hothers⟩ := List.pairwise_cons.mp hdistinct
      have hset : l.set e.1 e.2 = ⟨l.entries ++ [e]⟩ :=
        congrArg Ledger.mk (write_of_new fun f hf => h f hf e List.mem_cons_self)
      -- The first entry was written, and the others are apart from it, too.
      have hapart : (⟨l.entries ++ [e]⟩ : Ledger).Apart ⟨rest⟩ := by
        intro f hf g hg
        rcases List.mem_append.mp hf with hf | hf
        · exact h f hf g (List.mem_cons_of_mem e hg)
        · obtain rfl := List.mem_singleton.mp hf
          exact hfirst g hg
      rw [writeAll_cons, hset, ih hapart hrest hothers, List.append_assoc, List.singleton_append]

end Ledger

/-! ### The values of outcomes -/

namespace Outcome

variable {notifier : Option Notifier} {context : Value} {o : Outcome}

/-- A step keeps the values of an outcome well-formed. -/
theorem wellFormed_step (ho : o.values.WellFormed) (i : Instruction) :
    (step notifier context o i).values.WellFormed := by
  rcases values_step notifier context o i with ⟨w, hw, hvalues⟩ | ⟨-, hvalues | ⟨items, hvalues⟩⟩
  · have hkey : w.1.IsKey := by
      refine Instruction.keyed_writesOf context [i] w ?_
      exact List.mem_filterMap.mpr ⟨i, List.mem_singleton_self i, hw⟩
    rw [hvalues]
    exact ho.set hkey
  · rw [hvalues]
    exact ho
  · rw [hvalues]
    exact ho.set isKey_workflowsKey

theorem wellFormed_foldl (ho : o.values.WellFormed) (is : List Instruction) :
    (is.foldl (step notifier context) o).values.WellFormed := by
  induction is generalizing o with
  | nil => exact ho
  | cons i is ih => exact ih (wellFormed_step ho i)

/-- The values of an outcome are well-formed. -/
theorem wellFormed_values (notifier : Option Notifier) (context : Value) (is : List Instruction) :
    (ofInstructions notifier context is).values.WellFormed :=
  wellFormed_foldl Ledger.wellFormed_empty is

end Outcome

namespace Result

/-- What a result holds under a key. -/
def held? (key : Value) (r : Result) : Option Value := r.outcome.values.get? key

theorem IsCarriedOut.wellFormed {notifier : Option Notifier} {context : Value} {r : Result}
    (h : r.IsCarriedOut notifier context) : r.outcome.values.WellFormed := by
  rw [h.outcome]
  exact Outcome.wellFormed_values notifier context r.actions

end Result

/-! ### Merging matched results -/

namespace Merged

/-- A matched result taken in. -/
def take (m : Merged) (r : Result) : Merged :=
  ⟨m.values.update r.outcome.values, m.errors ++ r.outcome.errors, m.matched + 1⟩

/-- **Merging takes in the matched results**, in their order. -/
theorem ofResults_eq_foldl_take (results : List Result) :
    ofResults results = (results.filter (·.matched)).foldl take empty := by
  rw [List.foldl_filter]
  rfl

theorem errors_foldl_take (results : List Result) (m : Merged) :
    (results.foldl take m).errors = m.errors ++ results.flatMap (·.outcome.errors) := by
  induction results generalizing m with
  | nil => exact (List.append_nil _).symm
  | cons r rest ih =>
      rw [List.foldl_cons, ih, List.flatMap_cons, ← List.append_assoc]
      rfl

theorem matched_foldl_take (results : List Result) (m : Merged) :
    (results.foldl take m).matched = m.matched + results.length := by
  induction results generalizing m with
  | nil => rfl
  | cons r rest ih =>
      rw [List.foldl_cons, ih, List.length_cons]
      simp only [take]
      omega

/-- What stands under a key after some results were taken in. -/
theorem get?_foldl_take {results : List Result} (h : ∀ r ∈ results, r.outcome.values.WellFormed)
    {m : Merged} (hm : Ledger.Keyed m.values.entries) (key : Value) :
    (results.foldl take m).values.get? key =
      (results.filterMap (Result.held? key)).getLast?.or (m.values.get? key) := by
  induction results generalizing m with
  | nil => rfl
  | cons r rest ih =>
      obtain ⟨hr, hrest⟩ := List.forall_mem_cons.mp h
      have htaken : (m.take r).values.get? key = (r.held? key).or (m.values.get? key) :=
        Ledger.get?_update hm hr key
      rw [List.foldl_cons, ih hrest (Ledger.keyed_writeAll hm hr.keyed), htaken]
      cases hheld : r.held? key with
      | none => rw [List.filterMap_cons_none hheld, Option.none_or]
      | some v =>
          rw [List.filterMap_cons_some hheld, List.getLast?_cons, Option.some_or]
          cases (rest.filterMap (Result.held? key)).getLast? with
          | none => rfl
          | some w => rfl

/-- The errors of merged results are those of the matched ones, in their order. -/
theorem errors_ofResults (results : List Result) :
    (ofResults results).errors =
      (results.filter (·.matched)).flatMap (·.outcome.errors) := by
  rw [ofResults_eq_foldl_take, errors_foldl_take]
  rfl

theorem matched_ofResults (results : List Result) :
    (ofResults results).matched = (results.filter (·.matched)).length := by
  rw [ofResults_eq_foldl_take, matched_foldl_take]
  exact Nat.zero_add _

/-- **Merged results hold what the last matched result holds that holds anything**, under every
key. -/
theorem get?_ofResults {results : List Result} (h : ∀ r ∈ results, r.outcome.values.WellFormed)
    (key : Value) :
    (ofResults results).values.get? key =
      ((results.filter (·.matched)).filterMap (Result.held? key)).getLast? := by
  have hmatched : ∀ r ∈ results.filter (·.matched), r.outcome.values.WellFormed :=
    fun r hr => h r (List.mem_filter.mp hr).1
  rw [ofResults_eq_foldl_take, get?_foldl_take hmatched Ledger.wellFormed_empty.keyed]
  exact Option.or_none

/-- **What one result comes to** is what it holds. -/
theorem ofResults_singleton {notifier : Option Notifier} {context : Value} {r : Result}
    (h : r.IsCarriedOut notifier context) :
    (ofResults [r]).values = r.outcome.values ∧ (ofResults [r]).errors = r.outcome.errors := by
  have hmerged : ofResults [r] = empty.add r := rfl
  rw [hmerged, add]
  cases hmatched : r.matched with
  | true =>
      have hapart : Ledger.empty.Apart r.outcome.values := fun e he => by cases he
      exact ⟨hapart.update_eq h.wellFormed, rfl⟩
  | false =>
      rw [h.outcome, h.actions hmatched]
      exact ⟨rfl, rfl⟩

end Merged

end Rulebook
