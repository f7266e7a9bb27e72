import Rulebook.Numeral
import Rulebook.Value

/-!
# Reading JSON

The value that a JSON text writes. Beyond the standard, `NaN`, `Infinity` and `-Infinity` are
numbers. A number without fraction and exponent is an integer, which may be as long as integers may
be. Of two members with one name the later one stays, in the place of the earlier one. A text that
is not JSON is refused at the first place where it can go on no further.

Texts are made of characters. Half of a surrogate pair on its own is none, and is replaced.

## Main definitions

* `Json.Fault`: why and where a text is not JSON;
* `Json.read`: the value that a text writes.
-/

namespace Rulebook.Json

/-- What a text would have to go on with, or what is wrong with it. -/
inductive Cause where
  | expectingValue
  | expectingName
  | expectingColon
  | expectingComma
  | unterminated
  | controlCharacter
  | unknownEscape
  | unicodeEscape
  | extraData
deriving DecidableEq

/-- Why a text is not read as JSON. -/
inductive Fault where
  /-- It is not JSON, from the place given on. -/
  | malformed (cause : Cause) (place : Nat)
  /-- It is nested too deeply. -/
  | tooDeep
  /-- It has an integer of too many digits. -/
  | tooManyDigits
deriving DecidableEq

/-- A place in a text: how many characters are before it, and those after it. -/
structure Cursor where
  place : Nat
  rest : List Char

namespace Cursor

/-- The cursor moved on over some characters. -/
def move (c : Cursor) (n : Nat) : Cursor := ⟨c.place + n, c.rest.drop n⟩

/-- Is a character white space between the parts of a JSON text? -/
def isSpace (c : Char) : Bool := c == ' ' || c == '\t' || c == '\n' || c == '\r'

/-- The cursor moved on over white space. -/
def skip (c : Cursor) : Cursor :=
  ⟨c.place + (c.rest.takeWhile isSpace).length, c.rest.dropWhile isSpace⟩

/-- The refusal of a text at a cursor. -/
def refuse {α : Type} (c : Cursor) (cause : Cause) : Except Fault α :=
  .error (.malformed cause c.place)

end Cursor

/-! ### Strings -/

/-- The number that four hexadecimal digits write. -/
def hexFour? (cs : List Char) : Option Nat :=
  if (cs.take 4).length < 4 then none
  else
    ((cs.take 4).mapM fun c => if c.toNat < 0x80 then Numeral.digit? 16 c else none).map
      (Numeral.valueOf 16)

/-- Is a number the first half of a pair? -/
def isHighSurrogate (n : Nat) : Bool := decide (0xd800 ≤ n) && decide (n < 0xdc00)

/-- Is a number the second half of a pair? -/
def isLowSurrogate (n : Nat) : Bool := decide (0xdc00 ≤ n) && decide (n < 0xe000)

/-- The character of a number. A half of a pair on its own stands for no character; a text with it
is outside of this library, and the mark of what is unknown stands in its place. -/
def charOf (n : Nat) : Char :=
  if isHighSurrogate n || isLowSurrogate n then '\ufffd' else Char.ofNat n

/-- The character that the two halves of a pair stand for. -/
def joinSurrogates (high low : Nat) : Char :=
  Char.ofNat (0x10000 + (high - 0xd800) * 0x400 + (low - 0xdc00))

/-- The character of a `\u` escape, and the cursor behind it. The cursor given stands on the
backslash. Something has to follow the digits. -/
def readUnicode (c : Cursor) : Except Fault (Char × Cursor) :=
  let digits := c.rest.drop 2
  let after := digits.drop 4
  match if after.isEmpty then none else hexFour? digits with
  | none => (c.move 1).refuse .unicodeEscape
  | some high =>
    if isHighSurrogate high && !(after.drop 6).isEmpty && ['\\', 'u'].isPrefixOf after then
      match hexFour? (after.drop 2) with
      | none => (c.move 7).refuse .unicodeEscape
      | some low =>
        if isLowSurrogate low then .ok (joinSurrogates high low, c.move 12)
        else .ok (charOf high, c.move 6)
    else .ok (charOf high, c.move 6)

/-- The character that a letter after a backslash stands for. -/
def escaped? (c : Char) : Option Char :=
  if c = '"' ∨ c = '\\' ∨ c = '/' then some c
  else if c = 'b' then some '\x08'
  else if c = 'f' then some '\x0c'
  else if c = 'n' then some '\n'
  else if c = 'r' then some '\r'
  else if c = 't' then some '\t'
  else none

/-- The rest of a string whose opening quote stands at `start`, `done` being the characters read so
far, the last one first. -/
def readString (start : Nat) : Nat → List Char → Cursor → Except Fault (String × Cursor)
  | 0, _, _ => .error (.malformed .unterminated start)
  | fuel + 1, done, c =>
    match c.rest with
    | [] => .error (.malformed .unterminated start)
    | '"' :: _ => .ok (String.ofList done.reverse, c.move 1)
    | ['\\'] => .error (.malformed .unterminated start)
    | '\\' :: 'u' :: _ =>
      match readUnicode c with
      | .ok (ch, next) => readString start fuel (ch :: done) next
      | .error fault => .error fault
    | '\\' :: letter :: _ =>
      match escaped? letter with
      | some ch => readString start fuel (ch :: done) (c.move 2)
      | none => c.refuse .unknownEscape
    | ch :: _ =>
      if ch.toNat < 0x20 then c.refuse .controlCharacter
      else readString start fuel (ch :: done) (c.move 1)

/-- The string whose opening quote a cursor stands on. -/
def stringAt (c : Cursor) : Except Fault (String × Cursor) :=
  readString c.place c.rest.length [] (c.move 1)

/-! ### Numbers -/

/-- Is a character a digit? -/
def isDigit (c : Char) : Bool := decide ('0' ≤ c) && decide (c ≤ '9')

/-- The digits before the point: a zero, or digits that do not start with one. -/
def wholeDigits (cs : List Char) : List Char :=
  match cs with
  | '0' :: _ => ['0']
  | cs => cs.takeWhile isDigit

/-- The digits of a fraction; a point counts only before a digit. -/
def fractionDigits (cs : List Char) : List Char :=
  match cs with
  | '.' :: rest => rest.takeWhile isDigit
  | _ => []

/-- The characters of an exponent, of which there is none without a digit. -/
def exponentPart (cs : List Char) : List Char :=
  match cs with
  | c :: rest =>
    if c = 'e' ∨ c = 'E' then
      let sign := rest.take 1 |>.filter fun d => d = '+' ∨ d = '-'
      let digits := (rest.drop sign.length).takeWhile isDigit
      if digits.isEmpty then [] else c :: (sign ++ digits)
    else []
  | [] => []

/-- The number that a cursor stands on. -/
def numberAt (c : Cursor) : Except Fault (Value × Cursor) :=
  let negative := c.rest.head? == some '-'
  let unsigned := if negative then c.rest.drop 1 else c.rest
  let whole := wholeDigits unsigned
  if whole.isEmpty then c.refuse .expectingValue
  else
    let afterWhole := unsigned.drop whole.length
    let fraction := fractionDigits afterWhole
    let fractionLength := if fraction.isEmpty then 0 else fraction.length + 1
    let exponent := exponentPart (afterWhole.drop fractionLength)
    let next :=
      c.move ((if negative then 1 else 0) + whole.length + fractionLength + exponent.length)
    if fraction.isEmpty && exponent.isEmpty then
      if Rulebook.Fault.digitLimit < whole.length then .error .tooManyDigits
      else
        let n : Int := Numeral.valueOf 10 (Numeral.decimals whole)
        .ok (.int (if negative then -n else n), next)
    else
      let shift := (Numeral.readExponent? exponent).getD 0
      let d : Decimal :=
        ⟨Numeral.valueOf 10 (Numeral.decimals (whole ++ fraction)), shift - fraction.length⟩
      .ok (.float (d.toBinary64 negative), next)

/-! ### Values -/

/-- The words that stand for values. -/
def words : List (String × Value) := [
  ("null", .null), ("true", .bool true), ("false", .bool false), ("NaN", .float .nan),
  ("Infinity", .float (.infinite false)), ("-Infinity", .float (.infinite true))]

/-- The value of the word that a cursor stands on. -/
def word? (c : Cursor) : Option (Value × Cursor) :=
  (words.find? fun w => w.1.toList.isPrefixOf c.rest).map fun w => (w.2, c.move w.1.length)

mutual

/-- The value that a cursor stands on, nested at most so deep. -/
def valueAt : Nat → Nat → Cursor → Except Fault (Value × Cursor)
  | 0, _, c => c.refuse .expectingValue
  | fuel + 1, depth, c =>
    match c.rest with
    | '"' :: _ => (stringAt c).map fun r => (.text r.1, r.2)
    | '[' :: _ =>
      if depth = 0 then .error .tooDeep
      else
        let next := (c.move 1).skip
        if next.rest.head? = some ']' then .ok (.list [], next.move 1)
        else itemsAt fuel (depth - 1) [] next
    | '\x7b' :: _ =>
      if depth = 0 then .error .tooDeep
      else
        let next := (c.move 1).skip
        if next.rest.head? = some '\x7d' then .ok (.mapping [], next.move 1)
        else membersAt fuel (depth - 1) [] next
    | _ =>
      match word? c with
      | some r => .ok r
      | none => numberAt c

/-- The rest of a list, `done` being the items read so far, the last one first. -/
def itemsAt : Nat → Nat → List Value → Cursor → Except Fault (Value × Cursor)
  | 0, _, _, c => c.refuse .expectingValue
  | fuel + 1, depth, done, c =>
    match valueAt fuel depth c with
    | .error fault => .error fault
    | .ok (v, next) =>
      let next := next.skip
      match next.rest with
      | ']' :: _ => .ok (.list (v :: done).reverse, next.move 1)
      | ',' :: _ => itemsAt fuel depth (v :: done) (next.move 1).skip
      | _ => next.refuse .expectingComma

/-- The rest of a mapping, `done` being the entries read so far. -/
def membersAt : Nat → Nat → List (String × Value) → Cursor → Except Fault (Value × Cursor)
  | 0, _, _, c => c.refuse .expectingName
  | fuel + 1, depth, done, c =>
    if c.rest.head? ≠ some '"' then c.refuse .expectingName
    else
      match stringAt c with
      | .error fault => .error fault
      | .ok (name, next) =>
        let next := next.skip
        if next.rest.head? ≠ some ':' then next.refuse .expectingColon
        else
          match valueAt fuel depth (next.move 1).skip with
          | .error fault => .error fault
          | .ok (v, next) =>
            let next := next.skip
            let done := Value.write name v done
            match next.rest with
            | '\x7d' :: _ => .ok (.mapping done, next.move 1)
            | ',' :: _ => membersAt fuel depth done (next.move 1).skip
            | _ => next.refuse .expectingComma

end

/-- How deep a text may be nested. As for conditions, this is an assumption that stands for what the
stack of the host allows. -/
def depthLimit : Nat := 900

/-- The value that a text writes; nothing but white space may follow it. -/
def read (cs : List Char) : Except Fault Value :=
  match valueAt (2 * cs.length + 2) depthLimit (Cursor.skip ⟨0, cs⟩) with
  | .error fault => .error fault
  | .ok (v, next) =>
    let next := next.skip
    if next.rest.isEmpty then .ok v else next.refuse .extraData

end Rulebook.Json
