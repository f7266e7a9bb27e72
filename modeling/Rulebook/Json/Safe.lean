import Rulebook.Value.Text

/-!
# Values that JSON can carry

JSON has no infinities and no NaN. `Value.isCarried` says whether a value is free of them, and
`Value.jsonSafe` puts `null` in their place, at every depth, and changes nothing else. What is
carried is also written, `Value.isSent`, unless an integer in it is too long for that.

## Main results

* `jsonSafe_list`, `jsonSafe_mapping`: the shape of a value is kept.
-/

namespace Rulebook.Value

mutual

/-- A value with `null` in the place of every infinity and NaN. -/
def jsonSafe : Value → Value
  | float x => if x.isFinite then float x else null
  | list items => list (itemsSafe items)
  | mapping entries => mapping (entriesSafe entries)
  | v => v

/-- Items with `null` in the place of every infinity and NaN. -/
def itemsSafe : List Value → List Value
  | [] => []
  | v :: rest => jsonSafe v :: itemsSafe rest

/-- Entries with `null` in the place of every infinity and NaN. -/
def entriesSafe : List (String × Value) → List (String × Value)
  | [] => []
  | (key, v) :: rest => (key, jsonSafe v) :: entriesSafe rest

end

mutual

/-- Is a value free of infinities and NaNs, at every depth? -/
def isCarried : Value → Bool
  | float x => x.isFinite
  | list items => itemsCarried items
  | mapping entries => entriesCarried entries
  | _ => true

/-- Are items free of infinities and NaNs? -/
def itemsCarried : List Value → Bool
  | [] => true
  | v :: rest => isCarried v && itemsCarried rest

/-- Are entries free of infinities and NaNs? -/
def entriesCarried : List (String × Value) → Bool
  | [] => true
  | (_, v) :: rest => isCarried v && entriesCarried rest

end

/-- Can a value be written as JSON? -/
def isSent (v : Value) : Bool := v.isCarried && v.isWritable

theorem itemsSafe_eq_map (items : List Value) : itemsSafe items = items.map jsonSafe := by
  induction items with
  | nil => rfl
  | cons v rest ih => simp [itemsSafe, ih]

theorem entriesSafe_eq_map (entries : List (String × Value)) :
    entriesSafe entries = entries.map fun e => (e.1, jsonSafe e.2) := by
  induction entries with
  | nil => rfl
  | cons e rest ih => simp [entriesSafe, ih]

/-- A list keeps its length. -/
theorem jsonSafe_list (items : List Value) : (list items).jsonSafe = list (items.map jsonSafe) := by
  rw [jsonSafe, itemsSafe_eq_map]

/-- A mapping keeps its keys in order. -/
theorem jsonSafe_mapping (entries : List (String × Value)) :
    (mapping entries).jsonSafe = mapping (entries.map fun e => (e.1, e.2.jsonSafe)) := by
  rw [jsonSafe, entriesSafe_eq_map]

end Rulebook.Value
