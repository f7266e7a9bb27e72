import Rulebook.Condition.Tree
import Rulebook.Proofs.Condition

/-!
# Reading a Condition Prunes It

A condition is evaluated as it was read or as it is written, and reading leaves out the children
that are `null` or an empty mapping. That is all it leaves out: the tree of a condition that was
read is the tree of what is written, pruned (`Condition.tree_of_readTo?`). Only such children make
a difference, for evaluation sees them as trees that never match, and a combinator without children
as a leaf.

## Main definitions

* `Condition.prune`, `Condition.isPruned`: what is written, without blank children at any depth.

## Main results

* `Condition.tree_of_readTo?`: reading prunes.
* `Condition.eval_of_ofValue?`: evaluation agrees on what was read and what is written when there
  is nothing to prune.
-/

namespace Rulebook

namespace Condition

/-! ### Pruning -/

mutual

/-- A condition as it is written, without blank children at any depth. -/
def prune : Value → Value
  | .mapping entries => .mapping (pruneEntries entries)
  | v => v

/-- The entries of a node with its children pruned. -/
def pruneEntries : List (String × Value) → List (String × Value)
  | [] => []
  | (key, v) :: rest => (key, if key = "conditions" then pruneChildren v else v) :: pruneEntries rest

/-- The children of a node without those that are blank; what is no list stays. -/
def pruneChildren : Value → Value
  | .list items => .list (pruneItems items)
  | v => v

/-- Some children without those that are blank. -/
def pruneItems : List Value → List Value
  | [] => []
  | v :: rest => if v.isBlank then pruneItems rest else prune v :: pruneItems rest

end

mutual

/-- Is no child in a condition blank, at any depth? -/
def isPruned : Value → Bool
  | .mapping entries => entriesPruned entries
  | _ => true

/-- Is no child among the entries of a node blank? -/
def entriesPruned : List (String × Value) → Bool
  | [] => true
  | (key, v) :: rest => (if key = "conditions" then childrenPruned v else true) && entriesPruned rest

/-- Is no child of a node blank? -/
def childrenPruned : Value → Bool
  | .list items => itemsPruned items
  | _ => true

/-- Is none of some children blank? -/
def itemsPruned : List Value → Bool
  | [] => true
  | v :: rest => !v.isBlank && isPruned v && itemsPruned rest

end

mutual

/-- Where there is nothing to prune pruning changes nothing. -/
theorem prune_of_isPruned : ∀ v : Value, isPruned v = true → prune v = v
  | .mapping entries, h => by
    rw [prune, pruneEntries_of_pruned entries h]
  | .absent, _ | .null, _ | .bool _, _ | .int _, _ | .float _, _ | .text _, _ | .timestamp _, _
  | .list _, _ => rfl

theorem pruneEntries_of_pruned : ∀ entries : List (String × Value),
    entriesPruned entries = true → pruneEntries entries = entries
  | [], _ => rfl
  | (key, v) :: rest, h => by
    rw [entriesPruned, Bool.and_eq_true] at h
    obtain ⟨hv, hrest⟩ := h
    rw [pruneEntries, pruneEntries_of_pruned rest hrest]
    split
    · rw [if_pos ‹_›] at hv
      rw [pruneChildren_of_pruned v hv]
    · rfl

theorem pruneChildren_of_pruned : ∀ v : Value, childrenPruned v = true → pruneChildren v = v
  | .list items, h => by
    rw [pruneChildren, pruneItems_of_pruned items h]
  | .absent, _ | .null, _ | .bool _, _ | .int _, _ | .float _, _ | .text _, _ | .timestamp _, _
  | .mapping _, _ => rfl

theorem pruneItems_of_pruned : ∀ items : List Value,
    itemsPruned items = true → pruneItems items = items
  | [], _ => rfl
  | v :: rest, h => by
    rw [itemsPruned, Bool.and_eq_true, Bool.and_eq_true] at h
    obtain ⟨⟨hblank, hv⟩, hrest⟩ := h
    rw [Bool.not_eq_true'] at hblank
    rw [pruneItems, hblank, prune_of_isPruned v hv, pruneItems_of_pruned rest hrest]
    rfl

end

/-! ### The tree of what was read -/

theorem isBlank_prune (v : Value) : (prune v).isBlank = v.isBlank := by
  cases v with
  | mapping entries =>
      cases entries with
      | nil => rfl
      | cons e rest => rfl
  | _ => rfl

/-- Pruning leaves the other entries of a node. -/
theorem lookup_pruneEntries {key : String} (hkey : key ≠ "conditions")
    (entries : List (String × Value)) :
    Value.lookup key (pruneEntries entries) = Value.lookup key entries := by
  induction entries with
  | nil => rfl
  | cons e rest ih =>
      obtain ⟨k, v⟩ := e
      rw [pruneEntries, Value.lookup, Value.lookup, ih]
      by_cases hk : k = key
      · rw [if_pos hk, if_pos hk, if_neg (fun h => hkey (hk.symm.trans h))]
      · rw [if_neg hk, if_neg hk]

/-- The children of a pruned node are those of the value under `conditions`, pruned. -/
theorem ofChildren_pruneEntries (entries : List (String × Value)) :
    Tree.ofChildren (pruneEntries entries) =
      match Value.lookup "conditions" entries with
      | some v => Tree.ofItems (pruneChildren v)
      | none => [] := by
  induction entries with
  | nil => rfl
  | cons e rest ih =>
      obtain ⟨k, v⟩ := e
      rw [pruneEntries, Tree.ofChildren, Value.lookup]
      by_cases hk : k = "conditions"
      · rw [if_pos hk, if_pos hk, if_pos hk]
      · rw [if_neg hk, if_neg hk, ih]

/-- The tree of a pruned node. -/
theorem ofValue_prune_mapping (entries : List (String × Value)) :
    Tree.ofValue (prune (.mapping entries)) =
      .node (Operator.ofValue ((Value.lookup "operator" entries).getD .null))
        ((Value.lookup "field" entries).getD .null) ((Value.lookup "value" entries).getD .absent)
        (Tree.ofChildren (pruneEntries entries)) := by
  rw [prune, Tree.ofValue, lookup_pruneEntries (by decide), lookup_pruneEntries (by decide),
    lookup_pruneEntries (by decide)]

/-- The trees of the children that were read are those of the items, pruned, when each child that
was read has the tree of its item, pruned. -/
theorem trees_of_readTo? {depth : Nat}
    (htree : ∀ v c, readTo? depth v = .ok (some c) → c.tree = Tree.ofValue (prune v))
    {items : List Value} {read : List (Option Condition)}
    (h : List.Forall₂ (fun item c => readTo? depth item = .ok c) items read) :
    trees (read.filterMap id) = Tree.ofValues (pruneItems items) := by
  induction h with
  | nil => rfl
  | @cons item c items read hitem _ ih =>
      have hblank := isBlank_of_readTo? hitem
      rw [pruneItems, hblank]
      cases c with
      | none => exact ih
      | some c =>
          rw [Option.isNone_some, if_neg Bool.false_ne_true, Tree.ofValues, ← htree item c hitem,
            ← ih]
          rfl

/-- **The tree of a condition that was read is the tree of what is written, pruned.** -/
theorem tree_of_readTo? {depth : Nat} {v : Value} {c : Condition}
    (h : readTo? depth v = .ok (some c)) : c.tree = Tree.ofValue (prune v) := by
  induction depth generalizing v c with
  | zero => cases h
  | succ depth ih =>
      cases readStep_of_readTo? h with
      | childless hoperator hchildren =>
          rw [ofValue_prune_mapping, ofChildren_pruneEntries, hoperator]
          rcases hchildren with hnone | hnull
          · rw [hnone]
            rfl
          · rw [hnull]
            rfl
      | parent hoperator hchildren hread =>
          have htrees := trees_of_readTo? (fun _ _ => ih) hread
          rw [ofValue_prune_mapping, ofChildren_pruneEntries, hoperator, hchildren, ofEntries, tree,
            optionTrees, htrees]
          rfl

/-- Does what was read match? Where nothing was read there is no node, which never matches. -/
def evalOption (context : Value) (c : Option Condition) : Except Fault Bool :=
  ((c.map tree).getD .malformed).eval context

/-- What is blank never matches. -/
theorem eval_ofValue_of_isBlank {v : Value} (h : v.isBlank = true) (context : Value) :
    (Tree.ofValue v).eval context = .ok false := by
  cases v with
  | null => rfl
  | mapping entries =>
      cases entries with
      | nil => rfl
      | cons e rest => cases h
  | _ => cases h

/-- **Where there is nothing to prune evaluation agrees** on what was read and what is written. -/
theorem eval_of_ofValue? {v : Value} {c : Option Condition} (h : ofValue? v = .ok c)
    (hpruned : isPruned v = true) (context : Value) :
    evalOption context c = (Tree.ofValue v).eval context := by
  cases c with
  | none =>
      rw [eval_ofValue_of_isBlank (isBlank_of_readTo? h)]
      rfl
  | some c =>
      have htree := tree_of_readTo? h
      rw [prune_of_isPruned v hpruned] at htree
      rw [← htree]
      rfl

end Condition

end Rulebook
