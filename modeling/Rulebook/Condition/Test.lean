import Rulebook.Condition
import Rulebook.Text.Search
import Rulebook.Value.Equality
import Rulebook.Value.Number
import Rulebook.Value.Text

/-!
# Tests

What a leaf of a condition tests: a comparison of a value found in the context with the value that
the condition gives. Equality is strict; order is that of the numbers the two sides count as, so
that a side which counts as a NaN fails all four order tests; the tests for text compare the texts
of the two sides.
-/

namespace Rulebook

namespace Value

/-- Is a value empty: absent, `null`, or a text or list without content? -/
def isEmpty : Value → Bool
  | absent | null => true
  | text s => s.isEmpty
  | list items => items.isEmpty
  | _ => false

/-- Is a value strictly equal to some item of a list? -/
def isAmong (v : Value) (items : List Value) : Bool := items.any fun item => v.strictlySame item

/-- Is a value an item of a list, or its text a part of a text? Nothing else contains anything. -/
def holds (container v : Value) : Except Fault Bool :=
  match container with
  | list items => .ok (items.any fun item => item.strictlySame v)
  | text s => do return Text.occursIn (← v.toText?).toList s.toList
  | _ => .ok false

/-- Compares the numbers that two values count as. -/
def compareNumbers (order : Binary64 → Binary64 → Bool) (v w : Value) : Except Fault Bool := do
  return order (← v.toNumber) (← w.toNumber)

/-- Compares the texts of two values; no text is compared for a missing value. -/
def compareTexts (order : List Char → List Char → Bool) (v w : Value) : Except Fault Bool :=
  if v.isAbsent || v.isNull then .ok false
  else do return order (← v.toText?).toList (← w.toText?).toList

/-- Is a value an item of what has to be a list? -/
def isItemOf (v w : Value) : Bool :=
  match w with
  | list items => v.isAmong items
  | _ => false

/-- Is a value no item of what has to be a list? -/
def isNoItemOf (v w : Value) : Bool :=
  match w with
  | list items => !v.isAmong items
  | _ => false

end Value

/-- Does a comparison hold between the value found and the value given? -/
def Comparison.holds (c : Comparison) (found given : Value) : Except Fault Bool :=
  match c with
  | equal => .ok (found.strictlySame given)
  | notEqual => .ok (!found.strictlySame given)
  | greater => found.compareNumbers (fun x y => y.lt x) given
  | less => found.compareNumbers Binary64.lt given
  | atLeast => found.compareNumbers (fun x y => y.le x) given
  | atMost => found.compareNumbers Binary64.le given
  | among => .ok (found.isItemOf given)
  | notAmong => .ok (found.isNoItemOf given)
  | contains => found.holds given
  | notContains => (found.holds given).map (!·)
  | startsWith => found.compareTexts (fun text start => start.isPrefixOf text) given
  | endsWith => found.compareTexts (fun text tail => tail.isSuffixOf text) given
  | empty => .ok found.isEmpty
  | notEmpty => .ok (!found.isEmpty)

/-- The answer of an operator that tests nothing. The operator is noted, for which it has to be
written. -/
def Operator.noted (op : Operator) : Except Fault Bool := op.toValue.plain?.map fun _ => false

/-- Does the test of an operator hold? An operator that does not compare tests nothing. -/
def Operator.holds (op : Operator) (found given : Value) : Except Fault Bool :=
  match op with
  | compare c => c.holds found given
  | op => op.noted

section

variable {op : Operator}

/-- An operator that can be written is noted. -/
theorem Operator.noted_of_isWritable (h : op.toValue.isWritable = true) : op.noted = .ok false := by
  rw [noted, Value.plain?, Value.ifWritable_of_isWritable h]
  rfl

/-- One that cannot is not. -/
theorem Operator.noted_of_not_isWritable (h : op.toValue.isWritable = false) :
    op.noted = .error .integerTooLong := by
  rw [noted, Value.plain?, Value.ifWritable_of_not_isWritable h]
  rfl

/-- Noting an operator is no match. -/
theorem Operator.noted_ne_true (op : Operator) : op.noted ≠ .ok true := by
  cases h : op.toValue.isWritable with
  | false => simp [noted_of_not_isWritable h]
  | true => simp [noted_of_isWritable h]

end

end Rulebook
