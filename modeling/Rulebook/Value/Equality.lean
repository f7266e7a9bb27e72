import Rulebook.Value

/-!
# Equality of values

Two notions of equality.

* **Plain** equality, `same`, compares numbers of every kind by their value, truth values among
  them (`true` is 1), and lists and mappings by their parts. It decides whether two keys are one.
* **Strict** equality, `strictlySame`, in which conditions are written, moreover demands the same
  kind, for the items of lists too. The entries of mappings are compared plainly.

A NaN equals nothing. Every NaN is one of its own here: where all NaNs of one text are read as one
object, a host that looks at objects first may find it equal to itself. Timestamps are equal when
they name the same moment.
-/

namespace Rulebook.Value

/-- A number as an integer or a binary64 number; truth values count as 0 and 1. -/
def numeric? : Value → Option (Int ⊕ Binary64)
  | bool b => some (.inl (if b then 1 else 0))
  | int n => some (.inl n)
  | float x => some (.inr x)
  | _ => none

/-- Are two numbers equal, neither of them rounded? -/
def sameNumber : Int ⊕ Binary64 → Int ⊕ Binary64 → Bool
  | .inl m, .inl n => decide (m = n)
  | .inl m, .inr y => y.isInteger m
  | .inr x, .inl n => x.isInteger n
  | .inr x, .inr y => x.sameNumber y

/-- Plain equality of two values without parts. -/
def sameScalar (v w : Value) : Bool :=
  match v.numeric?, w.numeric? with
  | some m, some n => sameNumber m n
  | _, _ =>
    match v, w with
    | absent, absent => true
    | null, null => true
    | text s, text t => s == t
    | timestamp t, timestamp u => t.same u
    | _, _ => false

mutual

/-- Plain equality. -/
def same : Value → Value → Bool
  | list xs, w =>
    match w with
    | list ys => sameItems xs ys
    | _ => false
  | mapping es, w =>
    match w with
    | mapping fs => es.length == fs.length && sameEntries es fs
    | _ => false
  | v, w => sameScalar v w

/-- Plain equality, item by item. -/
def sameItems : List Value → List Value → Bool
  | [], ys => ys.isEmpty
  | x :: xs, ys =>
    match ys with
    | [] => false
    | y :: ys => same x y && sameItems xs ys

/-- Is each entry found, with an equal value, among others? -/
def sameEntries : List (String × Value) → List (String × Value) → Bool
  | [], _ => true
  | (k, v) :: rest, fs =>
    match lookup k fs with
    | some w => same v w && sameEntries rest fs
    | none => false

end

mutual

/-- Strict equality. -/
def strictlySame : Value → Value → Bool
  | list xs, w =>
    match w with
    | list ys => strictlySameItems xs ys
    | _ => false
  | v, w => decide (v.kind = w.kind) && same v w

/-- Strict equality, item by item. -/
def strictlySameItems : List Value → List Value → Bool
  | [], ys => ys.isEmpty
  | x :: xs, ys =>
    match ys with
    | [] => false
    | y :: ys => strictlySame x y && strictlySameItems xs ys

end

end Rulebook.Value
