import Rulebook.Value.Equality

/-!
# Ledgers

The values that the actions of a rule applied, in the order in which their keys were first written.
Two keys are one when they are plainly equal, so that 1, 1.0 and `true` name one entry; the entry
keeps the key that was written first and the value that was written last.

## Main definitions

* `Ledger`, `Ledger.get?`, `Ledger.set`;
* `Ledger.update`: all entries of another ledger set in order.
-/

namespace Rulebook

/-- Values by keys that are values themselves. -/
structure Ledger where
  entries : List (Value × Value)

namespace Ledger

/-- The ledger without entries. -/
def empty : Ledger := ⟨[]⟩

/-- The value of the first entry with an equal key. -/
def find? (key : Value) : List (Value × Value) → Option Value
  | [] => none
  | (k, v) :: rest => if k.same key then some v else find? key rest

/-- The entries with one written: in place of the entry with an equal key, or at the end. -/
def write (key value : Value) : List (Value × Value) → List (Value × Value)
  | [] => [(key, value)]
  | (k, v) :: rest => if k.same key then (k, value) :: rest else (k, v) :: write key value rest

/-- The value of a key. -/
def get? (l : Ledger) (key : Value) : Option Value := find? key l.entries

/-- The ledger with the value of a key set. -/
def set (l : Ledger) (key value : Value) : Ledger := ⟨write key value l.entries⟩

/-- The ledger with all entries of another one set in their order. -/
def update (l m : Ledger) : Ledger := m.entries.foldl (fun l e => l.set e.1 e.2) l

/-- The keys in the order of their first writing. -/
def keys (l : Ledger) : List Value := l.entries.map Prod.fst

/-- The ledger with the entries of a mapping. -/
def ofEntries (entries : List (String × Value)) : Ledger :=
  ⟨entries.map fun e => (.text e.1, e.2)⟩

@[simp] theorem get?_empty (key : Value) : empty.get? key = none := rfl

theorem entries_set (l : Ledger) (key value : Value) :
    (l.set key value).entries = write key value l.entries := rfl

end Ledger

end Rulebook
