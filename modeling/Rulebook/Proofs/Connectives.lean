import Mathlib.Logic.Function.Iterate
import Rulebook.Builder
import Rulebook.Condition.Tree

/-!
# The Algebra of Connectives

Connectives are evaluated by looking at children in order, down to a limit of depth, and a child
that decides ends the search. A child decides by its answer, or by a fault: that of an operator
which is not known and cannot be written. Within the limit a tree has a **truth**, which a
connective computes from the truths of its children, and evaluation gives that truth. The laws of
Boolean algebra keep the order of the leaves, and with it the first fault. Trees may therefore be
rewritten by them, at any place of a larger tree, whatever stands in them: nodes that were read or
are as they were written, and what is no node at all.

Beyond the limit there is no law but that of order: what stands after the child that decides is not
looked at.

## Main definitions

* `Tree.truth`: does a tree match, however deeply it is nested?
* `Tree.isNotable`: can all its operators be written?
* `Tree.height`: how deeply a tree is nested.
* `Tree.Rewrites`: the laws that a tree may be rewritten by.
* `Tree.Frame`, `Tree.plug`: a place in a larger tree, and that tree with another one in its place.

## Main results

* `Tree.ofValue_of_lookup`, `Tree.tree_connecting`: a node connects its children alike as it is
  written and as it is made.
* `Tree.exists_truth`: a tree whose operators can be written is true or false.
* `Tree.evalTo_of_height_le`: within the limit evaluation gives the truth of a tree.
* `Tree.Rewrites.truth_eq`, `Tree.Rewrites.height_le`: the laws keep the truth of a tree and make it
  no deeper.
* `Tree.truth_plug`, `Tree.height_plug`: so does rewriting at a place in a larger tree.
* `Tree.eval_rewritten`: trees evaluate alike after rewriting, and in order.
-/

namespace Rulebook

namespace Connective

/-- Does an answer decide where all others have to be a truth value? A fault always does. -/
def decides (b : Bool) : Except Fault Bool → Bool
  | .ok c => c != b
  | .error _ => true

/-- The first of some answers that decides, and a truth value where none does. -/
def firstOf (b : Bool) (as : List (Except Fault Bool)) : Except Fault Bool :=
  (as.find? (decides b)).getD (.ok b)

/-- The answer turned round. -/
def turn (a : Except Fault Bool) : Except Fault Bool := a.map (!·)

/-- How a connective makes one answer of those of its children. -/
def join : Connective → List (Except Fault Bool) → Except Fault Bool
  | every, as => firstOf true as
  | some, as => firstOf false as
  | negated, as => turn (as.headD (.ok false))

variable {b : Bool} {a : Except Fault Bool} {as : List (Except Fault Bool)}

theorem firstOf_cons_of_decides (h : decides b a = true) : firstOf b (a :: as) = a := by
  rw [firstOf, List.find?_cons_of_pos h, Option.getD_some]

theorem firstOf_cons_of_not_decides (h : decides b a = false) :
    firstOf b (a :: as) = firstOf b as := by
  rw [firstOf, List.find?_cons_of_neg (by simp [h]), firstOf]

@[simp] theorem turn_turn (a : Except Fault Bool) : turn (turn a) = a := by
  cases a <;> simp [turn, Except.map]

theorem decides_turn (b : Bool) (a : Except Fault Bool) : decides (!b) (turn a) = decides b a := by
  cases a with
  | error fault => rfl
  | ok c => cases b <;> cases c <;> rfl

/-- Turning the first that decides round is turning all of them round. -/
theorem turn_firstOf (b : Bool) (as : List (Except Fault Bool)) :
    turn (firstOf b as) = firstOf (!b) (as.map turn) := by
  have hdecides : decides (!b) ∘ turn = decides b := funext (decides_turn b)
  rw [firstOf, firstOf, List.find?_map, hdecides]
  cases as.find? (decides b) <;> rfl

/-- The first of some answers that decides does so for all of them. -/
theorem find?_firstOf (b : Bool) (as : List (Except Fault Bool)) :
    [firstOf b as].find? (decides b) = as.find? (decides b) := by
  rw [firstOf]
  cases h : as.find? (decides b) with
  | none => simp [decides]
  | some a => rw [Option.getD_some, List.find?_cons_of_pos (List.find?_some h)]

/-- Answers may stand in the place of the first of them that decides. -/
theorem firstOf_splice (b : Bool) (before as after : List (Except Fault Bool)) :
    firstOf b (before ++ firstOf b as :: after) = firstOf b (before ++ (as ++ after)) := by
  have hfind : (before ++ firstOf b as :: after).find? (decides b) =
      (before ++ (as ++ after)).find? (decides b) := by
    rw [← List.singleton_append, List.find?_append, List.find?_append, List.find?_append,
      List.find?_append, find?_firstOf]
  exact congrArg (·.getD (.ok b)) hfind

/-- Where all answers are truth values so is what a connective makes of them. -/
theorem exists_join (c : Connective) (h : ∀ a ∈ as, ∃ b, a = .ok b) :
    ∃ b, c.join as = .ok b := by
  have hfirst : ∀ b, ∃ answer, firstOf b as = .ok answer := by
    intro b
    rw [firstOf]
    cases hfind : as.find? (decides b) with
    | none => exact ⟨b, rfl⟩
    | some a => exact h a (List.mem_of_find?_eq_some hfind)
  cases c with
  | every => exact hfirst true
  | some => exact hfirst false
  | negated =>
      cases as with
      | nil => exact ⟨true, rfl⟩
      | cons a rest =>
          obtain ⟨b, rfl⟩ := h a List.mem_cons_self
          exact ⟨!b, rfl⟩

end Connective

namespace Tree

variable {context : Value}

/-! ### Truth -/

mutual

/-- Does a tree match, however deeply it is nested? -/
def truth (context : Value) : Tree → Except Fault Bool
  | malformed => .ok false
  | node op field value children =>
    match connective? op children with
    | some c => c.join (truths context children)
    | none => leafHolds context op field value

/-- Which of some trees match? -/
def truths (context : Value) : List Tree → List (Except Fault Bool)
  | [] => []
  | t :: rest => truth context t :: truths context rest

end

theorem truths_eq_map (ts : List Tree) : truths context ts = ts.map (truth context) := by
  induction ts with
  | nil => rfl
  | cons t rest ih => rw [truths, ih, List.map_cons]

/-- A node with a connective has the truth that the connective makes of those of its children. -/
theorem truth_connecting (c : Connective) (field value : Value) {children : List Tree}
    (h : children ≠ []) :
    truth context (node (.connect c) field value children) =
      c.join (children.map (truth context)) := by
  rw [truth, connective?, if_neg (by simpa using h), truths_eq_map]

mutual

/-- Can all operators of a tree be written? Those that are known can. -/
def isNotable : Tree → Bool
  | malformed => true
  | node op _ _ children => op.toValue.isWritable && areNotable children

/-- Can all operators of some trees be written? -/
def areNotable : List Tree → Bool
  | [] => true
  | t :: rest => isNotable t && areNotable rest

end

mutual

/-- **A tree whose operators can be written is true or false.** -/
theorem exists_truth : (t : Tree) → t.isNotable = true → ∃ b, truth context t = .ok b
  | malformed, _ => ⟨false, rfl⟩
  | node op field value children, h => by
      rw [isNotable, Bool.and_eq_true] at h
      rw [truth]
      cases connective? op children with
      | some c => exact c.exists_join (exists_truths children h.2)
      | none => exact exists_leafHolds h.1 field value

theorem exists_truths :
    (ts : List Tree) → areNotable ts = true → ∀ a ∈ truths context ts, ∃ b, a = .ok b
  | [], _ => by simp [truths]
  | t :: rest, h => by
      rw [areNotable, Bool.and_eq_true] at h
      rw [truths, List.forall_mem_cons]
      exact ⟨exists_truth t h.1, exists_truths rest h.2⟩

end

/-! ### Nodes as they are written and as they are read -/

theorem ofValues_eq_map (vs : List Value) : ofValues vs = vs.map ofValue := by
  induction vs with
  | nil => rfl
  | cons v rest ih => rw [ofValues, ih, List.map_cons]

/-- The children of a node that is written stand under `conditions`, whatever else it has. -/
theorem ofChildren_of_lookup {entries : List (String × Value)} {items : List Value}
    (h : Value.lookup "conditions" entries = some (.list items)) :
    ofChildren entries = items.map ofValue := by
  induction entries with
  | nil => cases h
  | cons e rest ih =>
      obtain ⟨key, v⟩ := e
      rw [Value.lookup] at h
      rw [ofChildren]
      by_cases hkey : key = "conditions"
      · rw [if_pos hkey] at h ⊢
        obtain rfl := Option.some.inj h
        exact ofValues_eq_map items
      · rw [if_neg hkey] at h ⊢
        exact ih h

/-- **A node that is written connects its children** by the connective that it names. -/
theorem ofValue_of_lookup {c : Connective} {entries : List (String × Value)} {items : List Value}
    (hoperator : Value.lookup "operator" entries = some (.text c.name))
    (hitems : Value.lookup "conditions" entries = some (.list items)) :
    ofValue (.mapping entries) =
      node (.connect c) ((Value.lookup "field" entries).getD .null)
        ((Value.lookup "value" entries).getD .absent) (items.map ofValue) := by
  rw [ofValue, hoperator, ofChildren_of_lookup hitems, Option.getD_some, Operator.ofValue,
    Operator.ofName?_name_connective, Option.getD_some]

/-- **So does a node that is made** of conditions. -/
theorem tree_connecting (c : Connective) (cs : List Condition) :
    (Condition.connecting c cs).tree = node (.connect c) .null .absent (cs.map Condition.tree) := by
  have htrees : Condition.trees cs = cs.map Condition.tree := by
    induction cs with
    | nil => rfl
    | cons c rest ih => rw [Condition.trees, ih, List.map_cons]
  rw [Condition.connecting, Condition.tree, Condition.optionTrees, htrees]

/-! ### Height -/

mutual

/-- How deeply a tree is nested. -/
def height : Tree → Nat
  | malformed => 1
  | node _ _ _ children => childrenHeight children + 1

/-- How deeply some trees are nested. -/
def childrenHeight : List Tree → Nat
  | [] => 0
  | t :: rest => max (height t) (childrenHeight rest)

end

theorem height_pos (t : Tree) : 0 < t.height := by
  cases t <;> simp [height]

theorem childrenHeight_append (ts us : List Tree) :
    childrenHeight (ts ++ us) = max (childrenHeight ts) (childrenHeight us) := by
  induction ts with
  | nil => simp [childrenHeight]
  | cons t rest ih =>
      rw [List.cons_append, childrenHeight, childrenHeight, ih]
      omega

theorem childrenHeight_le_iff {ts : List Tree} {n : Nat} :
    childrenHeight ts ≤ n ↔ ∀ t ∈ ts, t.height ≤ n := by
  induction ts with
  | nil => simp [childrenHeight]
  | cons t rest ih =>
      rw [childrenHeight, List.forall_mem_cons, ← ih]
      omega

/-! ### Evaluation within the limit -/

section Children

variable {depth : Nat} {ts : List Tree}

/-- Children that evaluate all match when all their truths do. -/
theorem everyTo_of_forall (h : ∀ t ∈ ts, evalTo context depth t = truth context t) :
    everyTo context depth ts = Connective.every.join (ts.map (truth context)) := by
  induction ts with
  | nil => rfl
  | cons t rest ih =>
      obtain ⟨ht, hrest⟩ := List.forall_mem_cons.mp h
      rw [everyTo, ht, ih hrest, Connective.join, Connective.join, List.map_cons]
      cases truth context t with
      | error fault => exact (Connective.firstOf_cons_of_decides rfl).symm
      | ok b =>
          cases b with
          | false => exact (Connective.firstOf_cons_of_decides rfl).symm
          | true => exact (Connective.firstOf_cons_of_not_decides rfl).symm

theorem someTo_of_forall (h : ∀ t ∈ ts, evalTo context depth t = truth context t) :
    someTo context depth ts = Connective.some.join (ts.map (truth context)) := by
  induction ts with
  | nil => rfl
  | cons t rest ih =>
      obtain ⟨ht, hrest⟩ := List.forall_mem_cons.mp h
      rw [someTo, ht, ih hrest, Connective.join, Connective.join, List.map_cons]
      cases truth context t with
      | error fault => exact (Connective.firstOf_cons_of_decides rfl).symm
      | ok b =>
          cases b with
          | false => exact (Connective.firstOf_cons_of_not_decides rfl).symm
          | true => exact (Connective.firstOf_cons_of_decides rfl).symm

theorem negatedTo_of_forall (h : ∀ t ∈ ts, evalTo context depth t = truth context t) :
    negatedTo context depth ts = Connective.negated.join (ts.map (truth context)) := by
  cases ts with
  | nil => rfl
  | cons t rest =>
      rw [negatedTo, h t List.mem_cons_self, List.map_cons, Connective.join, List.headD_cons]
      cases truth context t <;> rfl

end Children

/-- **Within the limit evaluation gives the truth of a tree.** -/
theorem evalTo_of_height_le {depth : Nat} {t : Tree} (h : t.height ≤ depth) :
    evalTo context depth t = truth context t := by
  -- By induction on the depth and not on the tree, so that the hypothesis is about every child.
  induction depth generalizing t with
  | zero =>
      have hpos := height_pos t
      omega
  | succ depth ih =>
      cases t with
      | malformed => rfl
      | node op field value children =>
          rw [height] at h
          have hchildren : ∀ t ∈ children, evalTo context depth t = truth context t :=
            fun t ht => ih (childrenHeight_le_iff.mp (Nat.le_of_succ_le_succ h) t ht)
          rw [evalTo, truth, if_neg (Nat.succ_ne_zero depth), Nat.add_sub_cancel]
          cases connective? op children with
          | none => rfl
          | some c =>
              cases c with
              | every => simp only [everyTo_of_forall hchildren, truths_eq_map]
              | some => simp only [someTo_of_forall hchildren, truths_eq_map]
              | negated => simp only [negatedTo_of_forall hchildren, truths_eq_map]

theorem eval_of_height_le {t : Tree} (h : t.height ≤ depthLimit) :
    t.eval context = truth context t := evalTo_of_height_le h

/-! ### Laws -/

/-- A tree negated. -/
def negation (field value : Value) (t : Tree) : Tree :=
  node (.connect .negated) field value [t]

theorem truth_negation (field value : Value) (t : Tree) :
    truth context (negation field value t) = Connective.turn (truth context t) := by
  rw [negation, truth_connecting _ _ _ (List.cons_ne_nil _ _)]
  rfl

/-- **The laws that a tree may be rewritten by.** A node that connects its children does not look at
the field and the value it carries, so these may be anything, and neither does a negation look at
other children than its first. -/
inductive Rewrites : Tree → Tree → Prop
  /-- Where not all match some do not. -/
  | notEvery {f v f₁ v₁ f₂ v₂ f₃ v₃ : Value} {cs others : List Tree} : cs ≠ [] →
      Rewrites (node (.connect .negated) f v (node (.connect .every) f₁ v₁ cs :: others))
        (node (.connect .some) f₂ v₂ (cs.map (negation f₃ v₃)))
  /-- Where not even some match all do not. -/
  | notSome {f v f₁ v₁ f₂ v₂ f₃ v₃ : Value} {cs others : List Tree} : cs ≠ [] →
      Rewrites (node (.connect .negated) f v (node (.connect .some) f₁ v₁ cs :: others))
        (node (.connect .every) f₂ v₂ (cs.map (negation f₃ v₃)))
  /-- What does not fail to match matches. -/
  | notNot {f v f₁ v₁ : Value} {c : Tree} {others others₁ : List Tree} :
      Rewrites (node (.connect .negated) f v
        (node (.connect .negated) f₁ v₁ (c :: others₁) :: others)) c
  /-- Children of a child that has to match have to match themselves. -/
  | everyInEvery {f v f₁ v₁ f₂ v₂ : Value} {cs before after : List Tree} : cs ≠ [] →
      Rewrites (node (.connect .every) f v (before ++ node (.connect .every) f₁ v₁ cs :: after))
        (node (.connect .every) f₂ v₂ (before ++ cs ++ after))
  /-- Children of a child that may match may match themselves. -/
  | someInSome {f v f₁ v₁ f₂ v₂ : Value} {cs before after : List Tree} : cs ≠ [] →
      Rewrites (node (.connect .some) f v (before ++ node (.connect .some) f₁ v₁ cs :: after))
        (node (.connect .some) f₂ v₂ (before ++ cs ++ after))

variable {t u : Tree}

/-- **The laws keep the truth of a tree.** -/
theorem Rewrites.truth_eq (h : Rewrites t u) : truth context u = truth context t := by
  cases h with
  | notEvery hcs =>
      simp [truth_connecting, truth_negation, Connective.join, hcs, Function.comp_def,
        Connective.turn_firstOf]
  | notSome hcs =>
      simp [truth_connecting, truth_negation, Connective.join, hcs, Function.comp_def,
        Connective.turn_firstOf]
  | notNot => simp [truth_connecting, Connective.join]
  | everyInEvery hcs =>
      simp [truth_connecting, Connective.join, hcs, Connective.firstOf_splice]
  | someInSome hcs =>
      simp [truth_connecting, Connective.join, hcs, Connective.firstOf_splice]

/-- Negating each of some trees makes them one level deeper. -/
theorem childrenHeight_negations_le (field value : Value) (ts : List Tree) :
    childrenHeight (ts.map (negation field value)) ≤ childrenHeight ts + 1 := by
  rw [childrenHeight_le_iff]
  intro u hu
  obtain ⟨t, ht, rfl⟩ := List.mem_map.mp hu
  have hle := childrenHeight_le_iff.mp (Nat.le_refl _) t ht
  simp only [negation, height, childrenHeight]
  omega

/-- **The laws make no tree deeper.** -/
theorem Rewrites.height_le (h : Rewrites t u) : u.height ≤ t.height := by
  cases h with
  | @notEvery _ _ _ _ _ _ f₃ v₃ cs _ _ =>
      have hle := childrenHeight_negations_le f₃ v₃ cs
      simp only [height, childrenHeight]
      omega
  | @notSome _ _ _ _ _ _ f₃ v₃ cs _ _ =>
      have hle := childrenHeight_negations_le f₃ v₃ cs
      simp only [height, childrenHeight]
      omega
  | notNot =>
      simp only [height, childrenHeight]
      omega
  | everyInEvery _ =>
      simp only [height, childrenHeight, childrenHeight_append]
      omega
  | someInSome _ =>
      simp only [height, childrenHeight, childrenHeight_append]
      omega

/-! ### Places in a larger tree -/

/-- A node around one of its children. -/
structure Frame where
  /-- The operator of the node. -/
  operator : Operator
  /-- The field of the node. -/
  field : Value
  /-- The value of the node. -/
  value : Value
  /-- The children before the one. -/
  before : List Tree
  /-- The children after it. -/
  after : List Tree

/-- The node with a tree as the one child. -/
def Frame.fill (frame : Frame) (t : Tree) : Tree :=
  node frame.operator frame.field frame.value (frame.before ++ t :: frame.after)

/-- A larger tree with a tree in its place, the outermost node first. -/
def plug (frames : List Frame) (t : Tree) : Tree := frames.foldr Frame.fill t

theorem Frame.truth_fill (frame : Frame) (h : truth context u = truth context t) :
    truth context (frame.fill u) = truth context (frame.fill t) := by
  obtain ⟨op, field, value, before, after⟩ := frame
  have hiff : connective? op (before ++ u :: after) = connective? op (before ++ t :: after) := by
    simp [connective?]
  simp only [fill, truth, hiff, truths_eq_map, List.map_append, List.map_cons, h]

theorem Frame.height_fill (frame : Frame) (h : u.height ≤ t.height) :
    (frame.fill u).height ≤ (frame.fill t).height := by
  simp only [fill, height, childrenHeight_append, childrenHeight]
  omega

/-- **Trees of one truth are of one truth at any place of a larger tree.** -/
theorem truth_plug (h : truth context u = truth context t) (frames : List Frame) :
    truth context (plug frames u) = truth context (plug frames t) := by
  induction frames with
  | nil => exact h
  | cons frame frames ih => exact frame.truth_fill ih

theorem height_plug (h : u.height ≤ t.height) (frames : List Frame) :
    (plug frames u).height ≤ (plug frames t).height := by
  induction frames with
  | nil => exact h
  | cons frame frames ih => exact frame.height_fill ih

/-! ### The child that decides -/

section Deciding

variable {depth : Nat} {before : List Tree}

/-- A child that does not match decides where all before it match. -/
theorem everyTo_append_cons (hbefore : ∀ s ∈ before, evalTo context depth s = .ok true)
    (ht : evalTo context depth t = .ok false) (after : List Tree) :
    everyTo context depth (before ++ t :: after) = .ok false := by
  induction before with
  | nil => rw [List.nil_append, everyTo, ht]
  | cons s before ih =>
      obtain ⟨hs, hrest⟩ := List.forall_mem_cons.mp hbefore
      rw [List.cons_append, everyTo, hs]
      exact ih hrest

/-- A child that matches decides where none before it matches. -/
theorem someTo_append_cons (hbefore : ∀ s ∈ before, evalTo context depth s = .ok false)
    (ht : evalTo context depth t = .ok true) (after : List Tree) :
    someTo context depth (before ++ t :: after) = .ok true := by
  induction before with
  | nil => rw [List.nil_append, someTo, ht]
  | cons s before ih =>
      obtain ⟨hs, hrest⟩ := List.forall_mem_cons.mp hbefore
      rw [List.cons_append, someTo, hs]
      exact ih hrest

end Deciding

/-- A chain of negations that is as long as the limit cannot be evaluated. -/
theorem evalTo_negations (field value : Value) (t : Tree) {depth n : Nat} (h : depth ≤ n) :
    evalTo context depth ((negation field value)^[n] t) = .error .tooDeep := by
  -- Each step down takes one negation off, and some are left when the depth is used up.
  induction depth generalizing n with
  | zero => cases (negation field value)^[n] t <;> rfl
  | succ depth ih =>
      obtain ⟨n, rfl⟩ := Nat.exists_eq_add_of_lt h
      rw [Function.iterate_succ_apply', negation, evalTo, if_neg (Nat.succ_ne_zero depth),
        Nat.add_sub_cancel]
      simp only [connective?, List.isEmpty_cons, Bool.false_eq_true, if_false, negatedTo]
      rw [ih (Nat.le_add_right depth n)]

/-- **Trees evaluate alike after rewriting**, at whatever place of a larger tree a law is used, as
long as the larger tree is within the limit of depth: to the same answer, which there is wherever
the operators can be written, and else to the same fault. **They evaluate in order** at any depth: a
child that decides after children that do not makes the answer, whatever stands after it, also where
that is too deep to be evaluated. -/
theorem eval_rewritten (context : Value) :
    (∀ (frames : List Frame) (t u : Tree), Rewrites t u → (plug frames t).height ≤ depthLimit →
      (plug frames u).eval context = (plug frames t).eval context ∧
      ((plug frames t).isNotable = true →
        ∃ b, (plug frames t).eval context = .ok b ∧ (plug frames u).eval context = .ok b)) ∧
    (∀ (depth : Nat) (field value : Value) (before : List Tree) (t : Tree) (after : List Tree),
      (∀ s ∈ before, evalTo context depth s = .ok true) → evalTo context depth t = .ok false →
      evalTo context (depth + 1)
        (node (.connect .every) field value (before ++ t :: after)) = .ok false) ∧
    ∀ (depth : Nat) (field value : Value) (before : List Tree) (t : Tree) (after : List Tree),
      (∀ s ∈ before, evalTo context depth s = .ok false) → evalTo context depth t = .ok true →
      evalTo context (depth + 1)
        (node (.connect .some) field value (before ++ t :: after)) = .ok true := by
  refine ⟨?_, ?_, ?_⟩
  · intro frames t u h hheight
    have hrewritten := Nat.le_trans (height_plug h.height_le frames) hheight
    have heval : (plug frames u).eval context = (plug frames t).eval context := by
      rw [eval_of_height_le hheight, eval_of_height_le hrewritten, truth_plug h.truth_eq]
    refine ⟨heval, fun hnotable => ?_⟩
    obtain ⟨b, hb⟩ : ∃ b, (plug frames t).truth context = .ok b := exists_truth _ hnotable
    rw [heval, eval_of_height_le hheight]
    exact ⟨b, hb, hb⟩
  · intro depth field value before t after hbefore ht
    rw [evalTo, if_neg (Nat.succ_ne_zero depth), Nat.add_sub_cancel]
    simpa [connective?] using everyTo_append_cons hbefore ht after
  · intro depth field value before t after hbefore ht
    rw [evalTo, if_neg (Nat.succ_ne_zero depth), Nat.add_sub_cancel]
    simpa [connective?] using someTo_append_cons hbefore ht after

/-- A leaf that a crate with a size matches, as it is written. -/
def sizedLeaf : Value := .mapping [("field", .text "size"), ("operator", .text "is_not_empty")]

/-- A leaf that a crate of size three matches, as it was made. -/
def threeLeaf : Condition := .test .equal (.text "size") (.int 3)

/-- Some conditions under a connective, as they are written. -/
def writtenUnder (c : Connective) (items : List Value) : Value :=
  .mapping [("conditions", .list items), ("operator", .text c.name)]

theorem ofValue_writtenUnder (c : Connective) (items : List Value) :
    ofValue (writtenUnder c items) = node (.connect c) .null .absent (items.map ofValue) :=
  ofValue_of_lookup rfl rfl

/-- What stands beside a leaf is a text and no condition. Below a node that was made the two are
negated together or apart, and after the text nothing is looked at, were it too deep. -/
theorem eval_rewritten_crate :
    let context : Value := .mapping [("size", .int 3)]
    let unread : Value := .text "size > 2"
    let frame : Frame := ⟨.connect .every, .null, .absent, [threeLeaf.tree], []⟩
    let deep := (negation .null .absent)^[depthLimit] (ofValue unread)
    (∃ b, (plug [frame] (ofValue (writtenUnder .negated
          [writtenUnder .every [sizedLeaf, unread]]))).eval context = .ok b ∧
      (plug [frame] (ofValue (writtenUnder .some
          [writtenUnder .negated [sizedLeaf], writtenUnder .negated [unread]]))).eval context
        = .ok b) ∧
    deep.eval context = .error .tooDeep ∧
    (node (.connect .every) .null .absent
      ([threeLeaf.tree, ofValue sizedLeaf] ++ ofValue unread :: [deep])).eval context
        = .ok false := by
  intro context unread frame deep
  obtain ⟨hrewritten, hevery, -⟩ := eval_rewritten context
  have hrewrites : Rewrites
      (ofValue (writtenUnder .negated [writtenUnder .every [sizedLeaf, unread]]))
      (ofValue (writtenUnder .some
        [writtenUnder .negated [sizedLeaf], writtenUnder .negated [unread]])) := by
    simp only [ofValue_writtenUnder, List.map_cons, List.map_nil]
    exact .notEvery (List.cons_ne_nil _ _)
  refine ⟨(hrewritten [frame] _ _ hrewrites (by decide)).2 (by decide), ?_, ?_⟩
  · exact evalTo_negations _ _ _ (Nat.le_refl _)
  · refine hevery (depthLimit - 1) _ _ [threeLeaf.tree, ofValue sizedLeaf] _ [deep] ?_ rfl
    simp only [List.forall_mem_cons]
    exact ⟨rfl, rfl, List.forall_mem_nil _⟩

end Tree

end Rulebook
