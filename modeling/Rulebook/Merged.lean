import Rulebook.RuleSet
import Rulebook.Signature

/-!
# Merged results

Several results as one: the values of the matched results, later ones over earlier ones, and their
errors, one after the other. A result may also come as a `Record`, whose fields are values that
nothing has checked.

## Main definitions

* `Merged`, `Merged.ofResults`, `Merged.isValid`;
* `Record`, `Merged.ofRecords?`.
-/

namespace Rulebook

/-- What several results come to. -/
structure Merged where
  values : Ledger
  errors : List Value
  /-- How many results matched. -/
  matched : Nat

namespace Merged

/-- What no result comes to. -/
def empty : Merged := ⟨.empty, [], 0⟩

/-- One more result taken in; only one that matched counts. -/
def add (m : Merged) (r : Result) : Merged :=
  if r.matched then
    ⟨m.values.update r.outcome.values, m.errors ++ r.outcome.errors, m.matched + 1⟩
  else m

/-- What results come to. -/
def ofResults (rs : List Result) : Merged := rs.foldl add empty

/-- Is the operation that was evaluated free of errors? -/
def isValid (m : Merged) : Bool := m.errors.isEmpty

/-- The workflows that were triggered: the items of whatever stands under their key. -/
def workflows? (m : Merged) : Except Fault (List Value) :=
  ((m.values.get? Outcome.workflowsKey).getD (.list [])).items?

end Merged

/-! ### Records -/

/-- A result whose fields are values. -/
structure Record where
  matched : Value
  errors : Value
  values : Value

namespace Record

/-- The fields of a record; those that merging does not look at may be given, too. -/
def signature : Signature where
  name := "result"
  required := []
  optional := ["matched", "actions", "errors", "applied_values", "rule_id", "failed_actions"]

/-- A record of the fields given. -/
def ofFields? (fields : List (String × Value)) : Except Fault Record := do
  let b ← signature.bind? [] fields
  return {
    matched := b.getD "matched" (.bool false)
    errors := b.getD "errors" (.list [])
    values := b.getD "applied_values" (.mapping []) }

/-- The pair that an item of a list of entries gives. -/
def pair? (place : Nat) (item : Value) : Except Fault (Value × Value) :=
  match item.items? with
  | .ok [key, value] => key.hashable.map fun _ => (key, value)
  | .ok items => .error (.notPair place items.length)
  | .error _ => .error (.notSequence place)

/-- The pairs that the items of a list of entries give. -/
def pairs? (place : Nat) : List Value → Except Fault (List (Value × Value))
  | [] => .ok []
  | item :: rest => do
    let pair ← pair? place item
    return pair :: (← pairs? (place + 1) rest)

/-- The entries that a value gives: those of a mapping, or a list of pairs. -/
def ledger? (v : Value) : Except Fault Ledger :=
  match v with
  | .mapping entries => .ok (.ofEntries entries)
  | v => do return ⟨← pairs? 0 (← v.items?)⟩

end Record

/-- One more record taken in. -/
def Merged.addRecord? (m : Merged) (r : Record) : Except Fault Merged :=
  if r.matched.isTruthy then do
    let values ← Record.ledger? r.values
    let errors ← r.errors.items?
    return ⟨m.values.update values, m.errors ++ errors, m.matched + 1⟩
  else .ok m

/-- What records come to. -/
def Merged.ofRecords? (rs : List Record) : Except Fault Merged := rs.foldlM addRecord? empty

end Rulebook
