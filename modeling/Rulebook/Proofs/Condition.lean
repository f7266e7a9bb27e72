import Rulebook.Condition
import Rulebook.Proofs.Success

/-!
# One Step of Reading a Condition

A condition is read node by node. What reading one node can give is said once, as a relation
between what is written and what is read from it; facts about whole conditions follow by induction
on the depth.

## Main definitions

* `Value.isBlank`: is there nothing to read a condition from?
* `Condition.ReadStep`: what reading one node can give.

## Main results

* `Condition.readStep_of_readTo?`, `Condition.readTo?_of_readStep`: reading a node is one of these
  steps, and every step is read.
* `Condition.isBlank_of_readTo?`: a condition is read from what is not blank, and only from that.
-/

namespace Rulebook

/-- Is there nothing to read a condition from, which is `null` or an empty mapping? -/
def Value.isBlank (v : Value) : Bool := v.isNull || v.isEmptyMapping

/-- A mapping in which something is found is not blank. -/
theorem Value.isBlank_of_lookup {entries : List (String × Value)} {key : String} {v : Value}
    (h : Value.lookup key entries = some v) : (Value.mapping entries).isBlank = false := by
  cases entries with
  | nil => cases h
  | cons e rest => rfl

namespace Condition

/-- **What reading one node can give**: nothing from what is blank, and otherwise the node of its
entries, with the children that were read from the items under `conditions`, if there are any. -/
inductive ReadStep (depth : Nat) : Value → Option Condition → Prop
  | blank {v : Value} : v.isBlank = true → ReadStep depth v none
  | childless {entries : List (String × Value)} {operator : Value} :
      Value.lookup "operator" entries = some operator →
      (Value.lookup "conditions" entries = none ∨
        Value.lookup "conditions" entries = some .null) →
      ReadStep depth (.mapping entries) (some (ofEntries entries operator none))
  | parent {entries : List (String × Value)} {operator : Value} {items : List Value}
      {read : List (Option Condition)} :
      Value.lookup "operator" entries = some operator →
      Value.lookup "conditions" entries = some (.list items) →
      List.Forall₂ (fun item c => readTo? depth item = .ok c) items read →
      ReadStep depth (.mapping entries)
        (some (ofEntries entries operator (some (read.filterMap id))))

/-- Reading a node is one such step. -/
theorem readStep_of_readTo? {depth : Nat} {v : Value} {c : Option Condition}
    (h : readTo? (depth + 1) v = .ok c) : ReadStep depth v c := by
  cases v with
  | null =>
      obtain rfl := Except.ok.inj h
      exact .blank rfl
  | mapping entries =>
      cases entries with
      | nil =>
          obtain rfl := Except.ok.inj h
          exact .blank rfl
      | cons e rest =>
          rw [readTo?] at h
          · cases hoperator : Value.lookup "operator" (e :: rest) with
            | none =>
                rw [hoperator] at h
                cases h
            | some operator =>
                rw [hoperator] at h
                dsimp only at h
                split at h
                · obtain rfl := Except.ok.inj h
                  exact .childless hoperator (.inl ‹_›)
                · obtain rfl := Except.ok.inj h
                  exact .childless hoperator (.inr ‹_›)
                · obtain ⟨read, hread, hc⟩ := bind_eq_ok_iff.mp h
                  obtain rfl := Except.ok.inj hc
                  exact .parent hoperator ‹_› (mapM_eq_ok_iff.mp hread)
                · cases h
          · intro hnil
            cases hnil
  | _ => cases h

/-- What such a step gives is read. -/
theorem readTo?_of_readStep {depth : Nat} {v : Value} {c : Option Condition}
    (h : ReadStep depth v c) : readTo? (depth + 1) v = .ok c := by
  cases h with
  | blank hblank =>
      cases v with
      | null => rfl
      | mapping entries =>
          cases entries with
          | nil => rfl
          | cons e rest => cases hblank
      | _ => cases hblank
  | @childless entries operator hoperator hchildren =>
      rw [readTo?, hoperator]
      · rcases hchildren with hnone | hnull
        · rw [hnone]
        · rw [hnull]
      · rintro rfl
        cases hoperator
  | @parent entries operator items read hoperator hitems hread =>
      rw [readTo?, hoperator]
      · dsimp only
        rw [hitems]
        exact bind_eq_ok_iff.mpr ⟨read, mapM_eq_ok_iff.mpr hread, rfl⟩
      · rintro rfl
        cases hoperator

/-- A condition is read from what is not blank, and nothing is read from what is. -/
theorem isBlank_of_readTo? {depth : Nat} {v : Value} {c : Option Condition}
    (h : readTo? depth v = .ok c) : v.isBlank = c.isNone := by
  cases depth with
  | zero => cases h
  | succ depth =>
      cases readStep_of_readTo? h with
      | blank hblank => exact hblank
      | childless hoperator _ => exact Value.isBlank_of_lookup hoperator
      | parent hoperator _ _ => exact Value.isBlank_of_lookup hoperator

end Condition

end Rulebook
