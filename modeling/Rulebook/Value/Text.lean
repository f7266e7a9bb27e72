import Rulebook.Value
import Rulebook.Binary64.Decimal
import Rulebook.Text.Quoted
import Rulebook.Timestamp.Writing

/-!
# Values as text

A value is written in three ways.

* `toText` is the storefront's own: what a condition compares when it looks for text, and what a
  template shows. A whole number has no fraction, and the items of a list are joined by commas.
* `inspect` shows a value unambiguously, with quotes around texts.
* `plain` is `inspect` but for a text and a timestamp on their own, which stand without quotes.

These are spellings, which every value has. What writes a value is `toText?`, `inspect?` and
`plain?`: they give the spelling, or a fault where an integer in the value, at whatever depth, has
more digits than are written.

## Main definitions

* `Value.inspect`, `Value.plain`, `Value.toText`: the three spellings;
* `Value.isWritable`: can a value be written?
* `Value.inspect?`, `Value.plain?`, `Value.toText?`: writing.
-/

namespace Rulebook.Value

mutual

/-- A value shown unambiguously. -/
def inspect : Value → String
  | absent => "UNSET"
  | null => "None"
  | bool b => if b then "True" else "False"
  | int n => toString n
  | float x => Layout.plain.write x
  | text s => String.ofList (Text.quoted s.toList)
  | timestamp t => t.constructorText
  | list items => "[" ++ ", ".intercalate (inspectItems items) ++ "]"
  | mapping entries => "\x7b" ++ ", ".intercalate (inspectEntries entries) ++ "\x7d"

/-- The items of a list, each shown unambiguously. -/
def inspectItems : List Value → List String
  | [] => []
  | v :: rest => inspect v :: inspectItems rest

/-- The entries of a mapping, each shown unambiguously. -/
def inspectEntries : List (String × Value) → List String
  | [] => []
  | (k, v) :: rest =>
    (String.ofList (Text.quoted k.toList) ++ ": " ++ inspect v) :: inspectEntries rest

end

/-- A value shown plainly: a text stands for itself. -/
def plain : Value → String
  | text s => s
  | timestamp t => t.isoText ' '
  | v => v.inspect

/-- A binary64 number as the storefront writes it: a whole number has no fraction. -/
def numberText (x : Binary64) : String :=
  match x with
  | .nan => "NaN"
  | .infinite negative => if negative then "-Infinity" else "Infinity"
  | x =>
    match x.toInt? with
    | some n => toString n
    | none => Layout.plain.write x

mutual

/-- A value as the storefront writes it. -/
def toText : Value → String
  | absent => "undefined"
  | null => "null"
  | bool b => if b then "true" else "false"
  | int n => toString n
  | float x => numberText x
  | text s => s
  | list items => ",".intercalate (itemTexts items)
  | v => v.plain

/-- The items of a list as the storefront writes them; nothing stands for `null` and for an absent
item. -/
def itemTexts : List Value → List String
  | [] => []
  | v :: rest => (match v with | absent | null => "" | v => toText v) :: itemTexts rest

end

/-! ### Writing -/

mutual

/-- Can a value be written? It cannot with an integer of more than `Fault.digitLimit` digits. -/
def isWritable : Value → Bool
  | int n => decide (n.natAbs < Nat.pow 10 Fault.digitLimit)
  | list items => itemsWritable items
  | mapping entries => entriesWritable entries
  | _ => true

/-- Can all items of a list be written? -/
def itemsWritable : List Value → Bool
  | [] => true
  | v :: rest => isWritable v && itemsWritable rest

/-- Can the values of all entries be written? -/
def entriesWritable : List (String × Value) → Bool
  | [] => true
  | (_, v) :: rest => isWritable v && entriesWritable rest

end

/-- A spelling of a value, if the value can be written. -/
def ifWritable (v : Value) (spelling : String) : Except Fault String :=
  if v.isWritable then .ok spelling else .error .integerTooLong

/-- Writes a value unambiguously. -/
def inspect? (v : Value) : Except Fault String := v.ifWritable v.inspect

/-- Writes a value plainly. -/
def plain? (v : Value) : Except Fault String := v.ifWritable v.plain

/-- Writes a value as the storefront does. -/
def toText? (v : Value) : Except Fault String := v.ifWritable v.toText

section Writing

variable {v : Value} {spelling s : String}

@[simp] theorem isWritable_text (s : String) : (text s).isWritable = true := rfl

@[simp] theorem isWritable_null : null.isWritable = true := rfl

theorem isWritable_int_iff {n : Int} :
    (int n).isWritable = true ↔ n.natAbs < Nat.pow 10 Fault.digitLimit := by
  rw [isWritable, decide_eq_true_iff]

theorem itemsWritable_iff {items : List Value} :
    itemsWritable items = true ↔ ∀ v ∈ items, v.isWritable = true := by
  induction items with
  | nil => simp [itemsWritable]
  | cons v rest ih => rw [itemsWritable, Bool.and_eq_true, ih, List.forall_mem_cons]

theorem entriesWritable_iff {entries : List (String × Value)} :
    entriesWritable entries = true ↔ ∀ e ∈ entries, e.2.isWritable = true := by
  induction entries with
  | nil => simp [entriesWritable]
  | cons e rest ih => rw [entriesWritable, Bool.and_eq_true, ih, List.forall_mem_cons]

theorem entriesWritable_append (es fs : List (String × Value)) :
    entriesWritable (es ++ fs) = (entriesWritable es && entriesWritable fs) := by
  induction es with
  | nil => rfl
  | cons e rest ih => rw [List.cons_append, entriesWritable, entriesWritable, ih, Bool.and_assoc]

theorem ifWritable_of_isWritable (h : v.isWritable = true) (spelling : String) :
    v.ifWritable spelling = .ok spelling := if_pos h

theorem ifWritable_of_not_isWritable (h : v.isWritable = false) (spelling : String) :
    v.ifWritable spelling = .error .integerTooLong := by
  rw [ifWritable, h]
  rfl

theorem ifWritable_eq_ok_iff :
    v.ifWritable spelling = .ok s ↔ v.isWritable = true ∧ spelling = s := by
  cases h : v.isWritable with
  | false => simp [ifWritable_of_not_isWritable h]
  | true => simp [ifWritable_of_isWritable h]

@[simp] theorem plain?_text (s : String) : (text s).plain? = .ok s := rfl

end Writing

end Rulebook.Value
