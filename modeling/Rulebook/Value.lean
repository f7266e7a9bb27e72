import Rulebook.Binary64
import Rulebook.Timestamp
import Rulebook.Fault

/-!
# Values

The values of tenants' data: those of JSON, with integers kept apart from binary64 numbers, and two
more. A timestamp may stand where a caller puts one. `absent` is what a look-up gives for a key that
is not there, which is not the same as a key that holds `null`. Decimal numbers and tuples, which
only a caller could bring along, are left out.

## Main definitions

* `Value`, its `Kind` and its `typeName`;
* `Value.isTruthy`: does a value count as given?
* `Value.get?`, `Value.set`: the entries of a mapping, in the order of their first writing;
* `Value.items?`: the items a value can be gone through by.
-/

namespace Rulebook

/-- A value of a tenant's data. -/
inductive Value where
  | absent
  | null
  | bool (b : Bool)
  | int (n : Int)
  | float (x : Binary64)
  | text (s : String)
  | timestamp (t : Timestamp)
  | list (items : List Value)
  | mapping (entries : List (String × Value))

/-- The kinds of values that a strict comparison keeps apart. -/
inductive Kind where
  | absent
  | null
  | boolean
  | number
  | text
  | timestamp
  | list
  | mapping
deriving DecidableEq

namespace Value

/-- The kind of a value. -/
def kind : Value → Kind
  | absent => .absent
  | null => .null
  | bool _ => .boolean
  | int _ | float _ => .number
  | text _ => .text
  | timestamp _ => .timestamp
  | list _ => .list
  | mapping _ => .mapping

/-- The name under which messages mention the type of a value. -/
def typeName : Value → String
  | absent => "_Unset"
  | null => "NoneType"
  | bool _ => "bool"
  | int _ => "int"
  | float _ => "float"
  | text _ => "str"
  | timestamp _ => "datetime.datetime"
  | list _ => "list"
  | mapping _ => "dict"

/-- The name under which an error report mentions the type of what it received. -/
def receivedName : Value → String
  | timestamp _ => "datetime"
  | v => v.typeName

/-- Is this the absent value? -/
def isAbsent : Value → Bool
  | absent => true
  | _ => false

/-- Is this `null`? -/
def isNull : Value → Bool
  | null => true
  | _ => false

/-- A value counts as given unless it is absent, `null`, `false`, a zero, or an empty text, list or
mapping. -/
def isTruthy : Value → Bool
  | absent | null => false
  | bool b => b
  | int n => n != 0
  | float x => !x.isZero
  | text s => !s.isEmpty
  | timestamp _ => true
  | list items => !items.isEmpty
  | mapping entries => !entries.isEmpty

/-- The value, or another one where it does not count as given. -/
def orElse (v w : Value) : Value := if v.isTruthy then v else w

/-- The value, with `null` for the absent value. -/
def orNull (v : Value) : Value := if v.isAbsent then null else v

/-- May a value be a key? Lists and mappings may not. -/
def hashable : Value → Except Fault Unit
  | list items => .error (.notHashable (list items).typeName)
  | mapping entries => .error (.notHashable (mapping entries).typeName)
  | _ => .ok ()

/-! ### Entries -/

/-- The first entry of a key. -/
def lookup (key : String) : List (String × Value) → Option Value
  | [] => none
  | (k, v) :: rest => if k = key then some v else lookup key rest

/-- The entries with one written: in the place of the entry of that key, or at the end. -/
def write (key : String) (value : Value) : List (String × Value) → List (String × Value)
  | [] => [(key, value)]
  | (k, v) :: rest => if k = key then (k, value) :: rest else (k, v) :: write key value rest

/-- The value of a key of a mapping. -/
def get? (v : Value) (key : String) : Option Value :=
  match v with
  | mapping entries => lookup key entries
  | _ => none

/-- The value of a key of a mapping, or a value in its stead. -/
def getD (v : Value) (key : String) (default : Value) : Value := (v.get? key).getD default

/-- Is this a mapping? -/
def isMapping : Value → Bool
  | mapping _ => true
  | _ => false

/-- Is this a mapping without entries? -/
def isEmptyMapping : Value → Bool
  | mapping [] => true
  | _ => false

theorem lookup_write_self (key : String) (value : Value) (entries : List (String × Value)) :
    lookup key (write key value entries) = some value := by
  induction entries with
  | nil => simp [write, lookup]
  | cons e rest ih =>
    obtain ⟨k, v⟩ := e
    simp only [write]
    split
    · simp [lookup, *]
    · simp [lookup, *]

theorem lookup_write_of_ne {key other : String} (h : other ≠ key) (value : Value)
    (entries : List (String × Value)) :
    lookup other (write key value entries) = lookup other entries := by
  induction entries with
  | nil => simp [write, lookup, Ne.symm h]
  | cons e rest ih =>
    obtain ⟨k, v⟩ := e
    simp only [write]
    split
    · subst_vars
      simp [lookup, Ne.symm h]
    · simp only [lookup, ih]

/-! ### Items -/

/-- The items of a value: those of a list, the characters of a text, the keys of a mapping. -/
def items? : Value → Except Fault (List Value)
  | list items => .ok items
  | text s => .ok (s.toList.map fun c => text (String.singleton c))
  | mapping entries => .ok (entries.map fun e => text e.1)
  | v => .error (.notIterable v.typeName)

/-- The items of a value, and none for a value that does not count as given. -/
def givenItems? (v : Value) : Except Fault (List Value) := if v.isTruthy then v.items? else .ok []

/-! ### Truth of the simple values -/

@[simp] theorem isTruthy_null : null.isTruthy = false := rfl

@[simp] theorem isTruthy_absent : absent.isTruthy = false := rfl

@[simp] theorem isTruthy_bool (b : Bool) : (bool b).isTruthy = b := rfl

end Value

end Rulebook
