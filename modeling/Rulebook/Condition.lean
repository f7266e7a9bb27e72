import Rulebook.Refusal

/-!
# Conditions

A condition is a tree. A leaf compares the value under a field of the context with a value of its
own; an inner node connects the conditions below it. A tenant writes a condition as a mapping, and
an operator that is not known stays in the tree as it was written.

## Main definitions

* `Comparison`, `Connective`, `Operator`: what a node does;
* `Condition`, its reader `Condition.ofValue?` and its writer `Condition.toValue`.
-/

namespace Rulebook

/-- The tests of a leaf. -/
inductive Comparison where
  | equal
  | notEqual
  | greater
  | less
  | atLeast
  | atMost
  | among
  | notAmong
  | contains
  | notContains
  | startsWith
  | endsWith
  | empty
  | notEmpty
deriving DecidableEq

/-- The ways an inner node connects its children. -/
inductive Connective where
  /-- Every child matches. -/
  | every
  /-- Some child matches. -/
  | some
  /-- The first child does not match. -/
  | negated
deriving DecidableEq

/-- What a node does. -/
inductive Operator where
  | compare (c : Comparison)
  | connect (c : Connective)
  /-- An operator that is not known. -/
  | other (written : Value)

/-- The name of a comparison. -/
def Comparison.name : Comparison → String
  | equal => "=="
  | notEqual => "!="
  | greater => ">"
  | less => "<"
  | atLeast => ">="
  | atMost => "<="
  | among => "in"
  | notAmong => "not_in"
  | contains => "contains"
  | notContains => "not_contains"
  | startsWith => "starts_with"
  | endsWith => "ends_with"
  | empty => "is_empty"
  | notEmpty => "is_not_empty"

/-- All comparisons. -/
def Comparison.all : List Comparison :=
  [equal, notEqual, greater, less, atLeast, atMost, among, notAmong, contains, notContains,
    startsWith, endsWith, empty, notEmpty]

/-- The name of a connective. -/
def Connective.name : Connective → String
  | every => "and"
  | some => "or"
  | negated => "not"

/-- All connectives. -/
def Connective.all : List Connective := [every, some, negated]

namespace Operator

/-- The operator of a name. -/
def ofName? (name : String) : Option Operator :=
  match Comparison.all.find? (·.name = name) with
  | some c => some (compare c)
  | none => (Connective.all.find? (·.name = name)).map connect

/-- The operator that a value names. -/
def ofValue (v : Value) : Operator :=
  match v with
  | .text name => (ofName? name).getD (other v)
  | _ => other v

/-- An operator as it is written. -/
def toValue : Operator → Value
  | compare c => .text c.name
  | connect c => .text c.name
  | other written => written

theorem ofName?_name_comparison (c : Comparison) : ofName? c.name = some (compare c) := by
  cases c <;> rfl

theorem ofName?_name_connective (c : Connective) : ofName? c.name = some (connect c) := by
  cases c <;> rfl

/-- A name is read as the operator that is written with it. -/
theorem toValue_of_ofName? {name : String} {op : Operator} (h : ofName? name = some op) :
    op.toValue = .text name := by
  rw [ofName?] at h
  split at h
  · next c hc =>
    obtain rfl := Option.some.inj h
    have := List.find?_some hc
    simp only [decide_eq_true_eq] at this
    simp [toValue, this]
  · obtain ⟨c, hc, rfl⟩ := Option.map_eq_some_iff.1 h
    have := List.find?_some hc
    simp only [decide_eq_true_eq] at this
    simp [toValue, this]

/-- Reading an operator loses nothing. -/
@[simp] theorem toValue_ofValue (v : Value) : (ofValue v).toValue = v := by
  simp only [ofValue]
  split
  · next name =>
    cases h : ofName? name with
    | none => rfl
    | some op => exact toValue_of_ofName? h
  · rfl

end Operator

/-- A condition of a rule. -/
inductive Condition where
  /-- A node: what it does, the field it looks at, the value it compares with, and the conditions
  below it, if it was given any. -/
  | node (operator : Operator) (field value : Value) (children : Option (List Condition))

namespace Condition

/-- What a node does. -/
def operator : Condition → Operator
  | node op _ _ _ => op

/-- The field a node looks at. -/
def field : Condition → Value
  | node _ f _ _ => f

/-- The value a node compares with. -/
def value : Condition → Value
  | node _ _ v _ => v

/-- The conditions below a node, if it was given any. -/
def children : Condition → Option (List Condition)
  | node _ _ _ cs => cs

/-- How deep conditions may be nested. This is an assumption. On the host the stack decides, and
with it the place that conditions are read or evaluated from: a hundred levels can be followed from
everywhere, and five thousand from nowhere. The limit stands for any between. -/
def depthLimit : Nat := 400

/-! ### Reading -/

/-- The entries of a node without its children. -/
def ofEntries (entries : List (String × Value)) (operator : Value)
    (children : Option (List Condition)) : Condition :=
  node (Operator.ofValue operator) ((Value.lookup "field" entries).getD .null)
    ((Value.lookup "value" entries).getD .absent) children

/-- Reads a condition nested at most so deep; nothing is read from `null` and from an empty
mapping. Children from which nothing is read are left out. -/
def readTo? : Nat → Value → Except Failure (Option Condition)
  | 0, _ => .error (.fault .tooDeep)
  | depth + 1, v =>
    match v with
    | .null | .mapping [] => .ok none
    | .mapping entries =>
      match Value.lookup "operator" entries with
      | none => .error (.refused (.operatorMissing v))
      | some operator =>
        match Value.lookup "conditions" entries with
        | none | some .null => .ok (some (ofEntries entries operator none))
        | some (.list items) => do
          let children ← items.mapM (readTo? depth)
          return some (ofEntries entries operator (some (children.filterMap id)))
        | some _ => .error (.refused (.childrenNotList v))
    | other => .error (.refused (.conditionType other.receivedName))

/-- Reads a condition. -/
def ofValue? (v : Value) : Except Failure (Option Condition) := readTo? depthLimit v

/-! ### Writing -/

/-- An entry for a field that is not `null`. -/
def unlessNull (key : String) (v : Value) : List (String × Value) :=
  if v.isNull then [] else [(key, v)]

/-- An entry for a field that is not absent. -/
def unlessAbsent (key : String) (v : Value) : List (String × Value) :=
  if v.isAbsent then [] else [(key, v)]

mutual

/-- A condition as it is written. -/
def toValue : Condition → Value
  | node op field value children =>
    .mapping (("operator", op.toValue) :: (unlessNull "field" field ++ unlessAbsent "value" value ++
      childrenEntry children))

/-- The entry for the conditions below a node. -/
def childrenEntry : Option (List Condition) → List (String × Value)
  | none => []
  | some children => [("conditions", .list (toValues children))]

/-- Conditions as they are written. -/
def toValues : List Condition → List Value
  | [] => []
  | c :: rest => toValue c :: toValues rest

end

/-- The value of an optional condition; an empty mapping stands for none. -/
def optionToValue (c : Option Condition) : Value := (c.map toValue).getD (.mapping [])

end Condition

end Rulebook
