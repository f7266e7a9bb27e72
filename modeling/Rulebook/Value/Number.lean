import Rulebook.Value
import Rulebook.Numeral

/-!
# Values as numbers

The number a value counts as where a condition or an action needs one: `null` is zero, a truth
value is zero or one, a text is read as a numeral, a list of one item counts as that item and an
empty list as zero. Nothing else is a number.
-/

namespace Rulebook.Value

mutual

/-- The number a value counts as; a NaN for a value that is none. An integer that no binary64
number comes near is refused. -/
def toNumber : Value → Except Fault Binary64
  | null => .ok .zero
  | bool b => .ok (if b then .one else .zero)
  | int n => Numeral.ofInt n
  | float x => .ok x
  | text s => Numeral.read s.toList
  | list items => itemsToNumber items
  | _ => .ok .nan

/-- The number a list counts as. -/
def itemsToNumber : List Value → Except Fault Binary64
  | [] => .ok .zero
  | v :: rest => if rest.isEmpty then toNumber v else .ok .nan

end

end Rulebook.Value
