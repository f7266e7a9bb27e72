import Rulebook.Condition.Test
import Rulebook.Path

/-!
# Condition trees

A condition may stand in a rule as it was read, or as the value a tenant wrote. To evaluate it,
both are seen as a `Tree`, in which everything that is not a node is `malformed`. A node connects
its children when it has any and its operator is a connective, and is a leaf otherwise.

A fault in a leaf makes the leaf false, and the operator of the leaf is noted. So a tenant's
condition fails in two cases only: where it is nested deeper than `Tree.depthLimit`, and where it
comes to an operator that is not known and cannot be written. Children are looked at in order, and
none after the one that decides.

## Main definitions

* `Tree`, `Tree.ofValue`, `Condition.tree`;
* `Tree.leafHolds`: does a leaf match?
* `Tree.evalTo`, `Tree.eval`: does a tree match?
-/

namespace Rulebook

/-- A condition as evaluation sees it. -/
inductive Tree where
  /-- Not a node; it never matches. -/
  | malformed
  /-- A node with its operator, field, value and children. -/
  | node (operator : Operator) (field value : Value) (children : List Tree)

namespace Tree

mutual

/-- A value as a condition tree. -/
def ofValue : Value → Tree
  | .mapping entries =>
    node (Operator.ofValue ((Value.lookup "operator" entries).getD .null))
      ((Value.lookup "field" entries).getD .null) ((Value.lookup "value" entries).getD .absent)
      (ofChildren entries)
  | _ => malformed

/-- The children among the entries of a node: the items of the list under `conditions`. -/
def ofChildren : List (String × Value) → List Tree
  | [] => []
  | (key, v) :: rest => if key = "conditions" then ofItems v else ofChildren rest

/-- The items of a list as condition trees; no other value has any. -/
def ofItems : Value → List Tree
  | .list items => ofValues items
  | _ => []

/-- Values as condition trees. -/
def ofValues : List Value → List Tree
  | [] => []
  | v :: rest => ofValue v :: ofValues rest

end

/-- The operator, where it connects children that are there. -/
def connective? (op : Operator) (children : List Tree) : Option Connective :=
  match op with
  | .connect c => if children.isEmpty then none else some c
  | _ => none

/-- Does the test of a leaf hold of what a path leads to? -/
def tested (context : Value) (op : Operator) (path : String) (value : Value) :
    Except Fault Bool := do
  let found ← context.resolvePath (.text path)
  op.holds found value

/-- Does a leaf match? It needs a field, and a fault on the way makes it false. -/
def leafHolds (context : Value) (op : Operator) (field value : Value) : Except Fault Bool :=
  match field with
  | .text path =>
    if path.isEmpty then .ok false
    else
      match tested context op path value with
      | .ok b => .ok b
      | .error _ => op.noted
  | _ => .ok false

/-- A leaf matches when its field is a text that is not empty and its test holds of what that leads
to. -/
theorem leafHolds_eq_true_iff {context : Value} {op : Operator} {field value : Value} :
    leafHolds context op field value = .ok true ↔
      ∃ path, field = .text path ∧ ¬path.isEmpty ∧ tested context op path value = .ok true := by
  cases field with
  | text path =>
      simp only [leafHolds, Value.text.injEq, exists_eq_left']
      by_cases hpath : path.isEmpty = true
      · exact iff_of_false (by simp [hpath]) fun h => h.1 hpath
      · rw [if_neg hpath, and_iff_right hpath]
        cases tested context op path value with
        | error fault => simp [op.noted_ne_true]
        | ok b => rfl
  | _ => simp [leafHolds]

/-- A leaf whose operator can be written is true or false. -/
theorem exists_leafHolds {context : Value} {op : Operator} (h : op.toValue.isWritable = true)
    (field value : Value) : ∃ b, leafHolds context op field value = .ok b := by
  cases field with
  | text path =>
      rw [leafHolds]
      split
      · exact ⟨false, rfl⟩
      · split
        · exact ⟨_, rfl⟩
        · exact ⟨false, Operator.noted_of_isWritable h⟩
  | _ => exact ⟨false, rfl⟩

/-- How deep a tree may be nested: as deep as conditions, under the same assumption. -/
def depthLimit : Nat := Condition.depthLimit

mutual

/-- Does a tree match, when it is looked into at most so deep? -/
def evalTo (context : Value) (depth : Nat) : Tree → Except Fault Bool
  | malformed => if depth = 0 then .error .tooDeep else .ok false
  | node op field value children =>
    if depth = 0 then .error .tooDeep
    else
      match connective? op children with
      | some .every => everyTo context (depth - 1) children
      | some .some => someTo context (depth - 1) children
      | some .negated => negatedTo context (depth - 1) children
      | none => leafHolds context op field value

/-- Do all trees of a list match? None after the first that does not is looked at. -/
def everyTo (context : Value) (depth : Nat) : List Tree → Except Fault Bool
  | [] => .ok true
  | t :: rest =>
    match evalTo context depth t with
    | .ok true => everyTo context depth rest
    | .ok false => .ok false
    | .error fault => .error fault

/-- Does some tree of a list match? None after the first that does is looked at. -/
def someTo (context : Value) (depth : Nat) : List Tree → Except Fault Bool
  | [] => .ok false
  | t :: rest =>
    match evalTo context depth t with
    | .ok true => .ok true
    | .ok false => someTo context depth rest
    | .error fault => .error fault

/-- Does the first tree of a list not match? -/
def negatedTo (context : Value) (depth : Nat) : List Tree → Except Fault Bool
  | [] => .ok true
  | t :: _ =>
    match evalTo context depth t with
    | .ok b => .ok !b
    | .error fault => .error fault

end

/-- Does a tree match? -/
def eval (context : Value) (t : Tree) : Except Fault Bool := evalTo context depthLimit t

end Tree

namespace Condition

mutual

/-- A condition as a condition tree. -/
def tree : Condition → Tree
  | node op field value children => .node op field value (optionTrees children)

/-- The conditions below a node as condition trees. -/
def optionTrees : Option (List Condition) → List Tree
  | none => []
  | some children => trees children

/-- Conditions as condition trees. -/
def trees : List Condition → List Tree
  | [] => []
  | c :: rest => tree c :: trees rest

end

/-- Does a condition match? -/
def eval (context : Value) (c : Condition) : Except Fault Bool := c.tree.eval context

end Condition

end Rulebook
