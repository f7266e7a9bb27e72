import Rulebook.Numeral

/-!
# Percent signs in paths

A path may write a byte as a percent sign and two hexadecimal digits. Decoding gives the text that
the bytes of a path encode; a path whose bytes encode no text stays as it is written.
-/

namespace Rulebook.Text

/-- The bytes of a character. -/
def bytesOf (c : Char) : List UInt8 := (String.singleton c).toUTF8.toList

/-- The byte that two hexadecimal digits write. -/
def byte? (high low : Char) : Option UInt8 := do
  if high.toNat < 0x80 && low.toNat < 0x80 then
    return UInt8.ofNat (16 * (← Numeral.digit? 16 high) + (← Numeral.digit? 16 low))
  else none

/-- The bytes that a path writes. -/
def pathBytes : List Char → List UInt8
  | '%' :: high :: low :: rest =>
    match byte? high low with
    | some byte => byte :: pathBytes rest
    | none => bytesOf '%' ++ pathBytes (high :: low :: rest)
  | c :: rest => bytesOf c ++ pathBytes rest
  | [] => []
termination_by cs => cs.length

/-- The text that a path writes. -/
def decodePath (path : String) : String :=
  (String.fromUTF8? (ByteArray.mk (pathBytes path.toList).toArray)).getD path

end Rulebook.Text
