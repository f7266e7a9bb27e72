import Rulebook.Binary64
import Rulebook.Issue
import Rulebook.Numeral
import Rulebook.Text.LowerCase
import Rulebook.Value

/-!
# Settings

The settings of a service. Each can be given in code or by an environment variable, which has its
name after `RULES_` in any case; what is given in code comes first. A setting that is given as a
text where it has to be an integer or a truth value is read, in the few spellings that there are.

## Main definitions

* `Settings`, `Settings.load?`;
* `ServiceSettings`, `ServiceSettings.load?`: with the name and the address of the service.
-/

namespace Rulebook

namespace Setting

/-! ### Reading -/

/-- A setting, or what is wrong with it. -/
abbrev Checked (α : Type) : Type := Except IssueKind α

/-- A setting that has to be a text. -/
def text? : Value → Checked String
  | .text s => .ok s
  | _ => .error .notText

/-- The spellings of true, in small letters. -/
def trueTexts : List String := ["1", "on", "t", "true", "y", "yes"]

/-- The spellings of false, in small letters. -/
def falseTexts : List String := ["0", "off", "f", "false", "n", "no"]

/-- A truth value from a text, in capital or small letters. -/
def boolOfText (s : String) : Checked Bool :=
  let s := String.ofList (s.toList.map Char.toLower)
  if trueTexts.contains s then .ok true
  else if falseTexts.contains s then .ok false
  else .error .truthValueUnreadable

/-- The first integer that does not fit 64 bits. -/
def wordLimit : Int := Nat.pow 2 63

/-- Does an integer fit 64 bits? -/
def fitsWord (n : Int) : Bool := decide (-wordLimit ≤ n) && decide (n < wordLimit)

/-- A truth value from an integer: zero or one. -/
def boolOfInt (n : Int) : Checked Bool :=
  if n = 0 then .ok false
  else if n = 1 then .ok true
  else if fitsWord n then .error .truthValueUnreadable
  else .error .notTruthValue

/-- The integer that a binary64 number is, if it fits 64 bits; the least that would fit does not
count. -/
def wordOf? (x : Binary64) : Option Int :=
  x.toInt?.filter fun n => fitsWord n && n != -wordLimit

/-- A setting that has to be a truth value. -/
def bool? : Value → Checked Bool
  | .bool b => .ok b
  | .text s => boolOfText s
  | .int n => boolOfInt n
  | .float x =>
    match wordOf? x with
    | some n => boolOfInt n
    | none => .error .notTruthValue
  | _ => .error .notTruthValue

/-- Is a character white space around a number? -/
def isSpace (c : Char) : Bool :=
  Text.isBlank c && !(decide (0x1c ≤ c.toNat) && decide (c.toNat ≤ 0x1f))

/-- A text without the white space around it. -/
def trim (cs : List Char) : List Char :=
  ((cs.dropWhile isSpace).reverse.dropWhile isSpace).reverse

/-- A text without a fraction of zeros at its end. -/
def dropZeroFraction (cs : List Char) : List Char :=
  let fraction := cs.dropWhile (· ≠ '.')
  if (fraction.drop 1).all (· == '0') then cs.takeWhile (· ≠ '.') else cs

/-- Digits without the single underscores between them; nothing when an underscore stands
elsewhere. -/
def joinDigits : List Char → Option (List Char)
  | [] => none
  | [c] => if c.isDigit then some [c] else none
  | c :: '_' :: rest => if c.isDigit then (joinDigits rest).map (c :: ·) else none
  | c :: rest => if c.isDigit then (joinDigits rest).map (c :: ·) else none

/-- An integer from a text: digits with a sign, underscores between them and a fraction of
zeros. -/
def intOfText (s : String) : Checked Int :=
  let (negative, digits) := Numeral.takeSign (trim s.toList)
  match joinDigits (dropZeroFraction digits) with
  | none => .error .integerUnreadable
  | some digits =>
    if Fault.digitLimit < digits.length then .error .integerTooLong
    else
      let n : Int := Numeral.valueOf 10 (Numeral.decimals digits)
      .ok (if negative then -n else n)

/-- An integer from a binary64 number without fraction. -/
def intOfFloat (x : Binary64) : Checked Int :=
  if !x.isFinite then .error .notFinite
  else if x.toInt?.isNone then .error .hasFraction
  else
    match wordOf? x with
    | some n => .ok n
    | none => .error .integerTooLong

/-- A setting that has to be an integer. -/
def int? : Value → Checked Int
  | .int n => .ok n
  | .bool b => .ok (if b then 1 else 0)
  | .text s => intOfText s
  | .float x => intOfFloat x
  | _ => .error .notInteger

/-- A setting that has to be an integer from a bound on. -/
def intFrom? (least : Int) (v : Value) : Checked Int :=
  match int? v with
  | .ok n => if least ≤ n then .ok n else .error .tooSmall
  | .error kind => .error kind

/-! ### Sources -/

/-- What comes before the name of a setting in the environment. -/
def variableStart : String := "rules_"

/-- The value of the environment variable of a setting; of several spellings the last one counts. -/
def fromEnvironment? (environment : List (String × Value)) (name : String) : Option Value :=
  (environment.reverse.find? fun e =>
    Text.lower e.1.toList = (variableStart ++ name).toList).map Prod.snd

/-- The value of a setting, from code or else from the environment. -/
def source? (environment given : List (String × Value)) (name : String) : Option Value :=
  match Value.lookup name given with
  | some v => some v
  | none => fromEnvironment? environment name

/-- Reads a setting, which has a value in its stead where it is not given. -/
def read {α : Type} (environment given : List (String × Value)) (name : String)
    (check : Value → Checked α) (instead : α) : α × List Issue :=
  match source? environment given name with
  | none => (instead, [])
  | some v =>
    match check v with
    | .ok a => (a, [])
    | .error kind => (instead, [⟨[name], kind⟩])

end Setting

/-- The settings of every service. -/
structure Settings where
  /-- Where the service is deployed. -/
  env : String
  logLevel : String
  /-- Does a rule set end at its first match when a request does not say? -/
  stopOnFirstMatch : Bool
  /-- The largest rule set of one request. -/
  maxRules : Int

namespace Settings

/-- Reads the settings; everything that is wrong with them comes along. -/
def read (environment given : List (String × Value)) : Settings × List Issue :=
  let (env, envIssues) := Setting.read environment given "env" Setting.text? "local"
  let (logLevel, logIssues) := Setting.read environment given "log_level" Setting.text? "info"
  let (stop, stopIssues) :=
    Setting.read environment given "stop_on_first_match_default" Setting.bool? false
  let (most, mostIssues) :=
    Setting.read environment given "max_rules_per_request" (Setting.intFrom? 1) 500
  (⟨env, logLevel, stop, most⟩, envIssues ++ logIssues ++ stopIssues ++ mostIssues)

/-- The settings, or what is wrong with them. -/
def load? (environment given : List (String × Value)) : Except (List Issue) Settings :=
  let (settings, issues) := read environment given
  if issues.isEmpty then .ok settings else .error (Issue.sort issues)

end Settings

/-- The settings of a service with its name and its address. -/
structure ServiceSettings extends Settings where
  serviceName : String
  port : Int
  host : String

namespace ServiceSettings

/-- The address of a service that gives none. -/
def defaultHost : String := "0.0.0.0"

/-- The settings of a service of a name at a port, or what is wrong with them. -/
def load? (environment : List (String × Value)) (serviceName port : Value) :
    Except (List Issue) ServiceSettings :=
  let given := [("service_name", serviceName), ("port", port)]
  let (settings, issues) := Settings.read environment given
  let (serviceName, nameIssues) := Setting.read environment given "service_name" Setting.text? ""
  let (port, portIssues) := Setting.read environment given "port" Setting.int? 0
  let (host, hostIssues) := Setting.read environment given "host" Setting.text? defaultHost
  match issues ++ nameIssues ++ portIssues ++ hostIssues with
  | [] => .ok { settings with serviceName, port, host }
  | issues => .error (Issue.sort issues)

end ServiceSettings

end Rulebook
