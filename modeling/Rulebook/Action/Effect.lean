import Rulebook.Action
import Rulebook.Path
import Rulebook.Value.Number
import Rulebook.Value.Text

/-!
# Effects

What one action does in a context, apart from everything else that was done: it writes a value,
reports an error, notifies somebody or triggers a workflow, or it does nothing. What an action does
never hangs on the actions before it.

## Main definitions

* `Amount`: a sum that stays an integer as long as it can;
* `Effect`, `Action.effect`.
-/

namespace Rulebook

/-! ### Amounts -/

/-- A sum of numbers: an integer until a number of another sort is added. -/
inductive Amount where
  | whole (n : Int)
  | real (x : Binary64)

namespace Amount

/-- An amount as a binary64 number; an integer may be too large. -/
def toBinary64 : Amount → Except Fault Binary64
  | whole n => Numeral.ofInt n
  | real x => .ok x

/-- An amount as a value. -/
def toValue : Amount → Value
  | whole n => .int n
  | real x => .float x

/-- The amount with an item added. Integers are added exactly; everything else is added as the
binary64 number it counts as. -/
def add (total : Amount) (item : Value) : Except Fault Amount :=
  match total, item with
  | whole m, .int n => .ok (whole (m + n))
  | real x, .int n => do return real (x.add (← Numeral.ofInt n))
  | total, item => do
    let y ← item.toNumber
    return real ((← total.toBinary64).add y)

/-- The sum of some items, from left to right. -/
def sumOf (items : List Value) : Except Fault Amount := items.foldlM add (whole 0)

/-- An amount divided by a number of items. -/
def divide (total : Amount) (count : Nat) : Except Fault Binary64 :=
  match total with
  | whole n => Fault.quotientTooLarge.ifNone (Binary64.ofQuotient? n count)
  | real x => .ok (x.divNat count)

/-- The average of some items; that of none is zero. -/
def averageOf (items : List Value) : Except Fault Value :=
  if items.isEmpty then .ok (.int 0)
  else do return .float (← (← sumOf items).divide items.length)

end Amount

/-- The value that an operation gives for some items. -/
def Aggregation.ofItems (op : Aggregation) (items : List Value) : Except Fault Value :=
  match op with
  | sum => (Amount.sumOf items).map Amount.toValue
  | count => .ok (.int items.length)
  | average => Amount.averageOf items
  | other written => do throw (.unknownAggregation (← written.plain?))

/-! ### Effects -/

/-- What an action does. -/
inductive Effect where
  | nothing
  /-- A value is written under a key. -/
  | write (key value : Value)
  /-- An error is reported to whoever asked for the evaluation. -/
  | report (message : Value)
  /-- A message is handed to the notifier. -/
  | notify (message : Value)
  /-- A workflow is triggered. -/
  | trigger (workflow : String)

namespace Action

/-- The key of a fee whose action names none. -/
def defaultFeeField : Value := .text "fee"

/-- The path of the amount that a fee is a percentage of. -/
def feeBasePath : Value := .text "entity.total"

/-- Writes a value under a key, which has to be hashable. -/
def writing (key value : Value) : Except Fault Effect := key.hashable.map fun _ => .write key value

/-- What a value that is no number fails with. The value is shown, which it may be too long for. -/
def notNumberFault (name : String) (v : Value) : Fault :=
  match v.inspect? with
  | .ok shown => .notNumber name shown
  | .error fault => fault

theorem notNumberFault_eq (name : String) (v : Value) :
    notNumberFault name v = if v.isWritable then .notNumber name v.inspect else .integerTooLong := by
  rw [notNumberFault, Value.inspect?]
  cases h : v.isWritable with
  | false =>
      rw [Value.ifWritable_of_not_isWritable h]
      rfl
  | true =>
      rw [Value.ifWritable_of_isWritable h]
      rfl

/-- A percentage of the total of the entity. -/
def feeShare (percentage context : Value) : Except Fault Binary64 := do
  let share ← percentage.toNumber
  if share.isNaN then throw (notNumberFault "percentage" percentage)
  let base ← ((← context.getPath feeBasePath).orElse (.int 0)).toNumber
  return base.mul (share.divNat 100)

/-- The effect of a fee: a percentage that counts as given comes before a fixed value. -/
def feeEffect (a : Action) (context : Value) : Except Fault Effect :=
  let key := a.field.orElse defaultFeeField
  if a.percentage.isTruthy then do writing key (.float (← feeShare a.percentage context))
  else if a.value.isAbsent then .ok .nothing
  else writing key a.value

/-- The effect of an aggregation, for which operation, source and field all have to be given, and
the source has to lead to a list. -/
def aggregateEffect (a : Action) (context : Value) : Except Fault Effect :=
  if !(a.operationValue.isTruthy && a.source.isTruthy && a.field.isTruthy) then .ok .nothing
  else do
    match a.operation, ← context.getPath a.source with
    | some op, .list items => writing a.field (← op.ofItems items)
    | _, _ => return .nothing

/-- What an action does in a context. -/
def effect (a : Action) (context : Value) : Except Fault Effect :=
  match a.kind with
  | .setField =>
    if a.field.isTruthy && !a.value.isAbsent then writing a.field a.value else .ok .nothing
  | .addFee => a.feeEffect context
  | .error => .ok (if a.message.isTruthy then .report a.message else .nothing)
  | .aggregate => a.aggregateEffect context
  | .notify => .ok (if a.message.isTruthy then .notify a.message else .nothing)
  | .triggerWorkflow => if a.value.isTruthy then a.value.plain?.map .trigger else .ok .nothing
  | .other _ => .ok .nothing

end Action

/-- What an instruction does in a context. -/
def Instruction.effect (i : Instruction) (context : Value) : Except Failure Effect := do
  Fault.orFail ((← i.action?).effect context)

end Rulebook
