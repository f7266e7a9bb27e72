import Rulebook.Value
import Rulebook.Numeral
import Rulebook.Text.Quoted
import Rulebook.Text.Search

/-!
# Paths into values

A path is a list of segments that leads from a value to a part of it. On a mapping a segment is a
key. On a list a segment is a position, `length`, or the wildcard `*`, which follows the rest of
the path from every item and keeps what it finds. Everywhere else, and wherever there is nothing
under a segment, the path leads to the absent value.

## Main definitions

* `Value.resolve`: what a list of segments leads to;
* `Value.segments?`: the segments of a path, which is written as a text with dots between the
  segments or given as a list;
* `Value.resolvePath`, `Value.getPath`: what a path leads to, absent or `null` if nowhere.

## Main results

* `resolve_append`: a path without wildcard can be followed in two parts.
-/

namespace Rulebook.Value

/-- The segment that stands for every item of a list. -/
def wildcard : String := "*"

/-- The segment that stands for the number of items of a list. -/
def lengthSegment : String := "length"

/-- The position that a segment made of digits writes. Digits that are not decimal have no
position, and neither has a number with too many digits. -/
def position (digits : List Char) : Except Fault Nat :=
  let count := (digits.takeWhile Numeral.isDecimal).length
  if Fault.digitLimit < count then .error (.tooManyDigits count)
  else
    match Text.readDecimal? digits with
    | some n => .ok n
    | none => .error (.notDecimal (String.ofList (Text.quoted digits)))

/-- What a segment other than the wildcard leads to in a list. -/
def itemAt (items : List Value) (segment : Value) : Except Fault Value :=
  match segment with
  | text s =>
    if s = lengthSegment then .ok (int items.length)
    else if s.isEmpty || !s.toList.all Text.isDigit then .ok absent
    else (position s.toList).map fun n => items.getD n absent
  | other => .error (.missingPart other.typeName "isdigit")

/-- What a segment leads to in a mapping. -/
def entryAt (entries : List (String × Value)) (segment : Value) : Except Fault Value :=
  match segment with
  | text s => .ok ((lookup s entries).getD absent)
  | other => other.hashable.map fun _ => absent

/-- What one segment leads to, where the wildcard is out of question. -/
def step (v segment : Value) : Except Fault Value :=
  match v with
  | mapping entries => entryAt entries segment
  | list items => itemAt items segment
  | _ => .ok absent

/-- Is this segment the wildcard? -/
def isWildcard : Value → Bool
  | text s => s == wildcard
  | _ => false

/-- The items that a wildcard spreads over: those of a list. -/
def spread? (v segment : Value) : Option (List Value) :=
  match v with
  | list items => if segment.isWildcard then some items else none
  | _ => none

/-- The list of some values without the absent ones. -/
def collect (vs : List Value) : Value := list (vs.filter fun v => !v.isAbsent)

/-- What a list of segments leads to. -/
def resolve (v : Value) : List Value → Except Fault Value
  | [] => .ok v
  | segment :: rest =>
    match v.spread? segment with
    | some items =>
      if rest.isEmpty then .ok v
      else (items.mapM fun item => resolve item rest).map collect
    | none =>
      match v.step segment with
      | .ok next => resolve next rest
      | .error fault => .error fault

/-- The segments of a path: a text is cut at its dots. -/
def segments? : Value → Except Fault (List Value)
  | text s => .ok ((Text.splitOn '.' s.toList).map fun part => text (String.ofList part))
  | path => path.items?

/-- What a path leads to; the absent value when it leads nowhere. -/
def resolvePath (v path : Value) : Except Fault Value := do v.resolve (← path.segments?)

/-- What a path leads to; `null` when it leads nowhere. -/
def getPath (v path : Value) : Except Fault Value := (v.resolvePath path).map orNull

/-! ### Following a path in parts -/

@[simp] theorem resolve_nil (v : Value) : v.resolve [] = .ok v := rfl

theorem resolve_cons_of_not_wildcard {segment : Value} (h : segment.isWildcard = false) (v : Value)
    (rest : List Value) :
    v.resolve (segment :: rest) = v.step segment >>= fun next => next.resolve rest := by
  have hspread : v.spread? segment = none := by
    cases v <;> simp [spread?, h]
  rw [resolve, hspread]
  cases v.step segment <;> rfl

/-- A path whose first part has no wildcard is followed part by part. -/
theorem resolve_append {front : List Value} (h : ∀ s ∈ front, s.isWildcard = false) (v : Value)
    (back : List Value) :
    v.resolve (front ++ back) = v.resolve front >>= fun next => next.resolve back := by
  induction front generalizing v with
  | nil => rfl
  | cons segment rest ih =>
    have hhead := h segment (by simp)
    rw [List.cons_append, resolve_cons_of_not_wildcard hhead, resolve_cons_of_not_wildcard hhead]
    cases v.step segment with
    | error fault => rfl
    | ok next => exact ih (fun s hs => h s (by simp [hs])) next

end Rulebook.Value
