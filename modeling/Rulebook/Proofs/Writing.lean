import Rulebook.Action
import Rulebook.Proofs.Parts

/-!
# Writing Values

A value has a spelling, whatever stands in it, but it is written only when no integer within it is
longer than integers may be. What writes a value therefore gives its spelling or one fault, and
which of them it is depends on the value alone, not on the way that it is spelt.

## Main definitions

* `Value.tooLong`: an integer that has a spelling and cannot be written.

## Main results

* `Value.isWritable_iff`: a value can be written when no integer within it is too long.
* `Value.not_isWritable_tooLong`: there are values that cannot.
-/

namespace Rulebook.Value

/-- **A value can be written when no integer within it is too long.** -/
theorem isWritable_iff {v : Value} :
    v.isWritable = true ↔ ∀ n, (int n).IsPart v → n.natAbs < Nat.pow 10 Fault.digitLimit := by
  induction v using Value.induction with
  | key v hv =>
      constructor
      · intro h n hpart
        obtain rfl := hv.eq_of_isPart hpart
        exact isWritable_int_iff.mp h
      · intro h
        cases v with
        | int n => exact isWritable_int_iff.mpr (h n .self)
        | list => cases hv
        | mapping => cases hv
        | _ => rfl
  | list items ih =>
      rw [isWritable, itemsWritable_iff]
      constructor
      · rintro h n (_ | ⟨hv, hpart⟩)
        exact (ih _ hv).mp (h _ hv) n hpart
      · exact fun h v hv => (ih v hv).mpr fun n hpart => h n (.item hv hpart)
  | mapping entries ih =>
      rw [isWritable, entriesWritable_iff]
      constructor
      · rintro h n (_ | _ | ⟨he, hpart⟩)
        exact (ih _ he).mp (h _ he) n hpart
      · exact fun h e he => (ih e he).mpr fun n hpart => h n (.entry he hpart)

/-- The least positive integer that is too long to be written. -/
def tooLong : Value := int (Nat.pow 10 Fault.digitLimit)

theorem not_isWritable_tooLong : tooLong.isWritable = false := by
  rw [tooLong, ← Bool.not_eq_true, isWritable_int_iff, Int.natAbs_natCast]
  exact Nat.lt_irrefl _

end Rulebook.Value
