import Rulebook.Text.Ranges

/-!
# Blank characters

White space as it is trimmed from texts and collapsed in names: the Unicode spaces and line
separators and the four information separators, but neither the zero width space nor the byte
order mark.

## Main definitions

* `isBlank`: is a character white space?
* `trim`: a text without the blanks at its ends;
* `joinBlanks`: a text with each run of blanks replaced by one character.
-/

namespace Rulebook.Text

/-- The white space characters. -/
def blanks : Ranges := [
  (0x9, 0xd), (0x1c, 0x20), (0x85, 0x85), (0xa0, 0xa0), (0x1680, 0x1680), (0x2000, 0x200a),
  (0x2028, 0x2029), (0x202f, 0x202f), (0x205f, 0x205f), (0x3000, 0x3000)]

/-- Is a character white space? -/
def isBlank (c : Char) : Bool := blanks.holds c

/-- A text without the blanks at its ends. -/
def trim (cs : List Char) : List Char :=
  ((cs.dropWhile isBlank).reverse.dropWhile isBlank).reverse

/-- A text with each run of blanks replaced by one character; `inRun` says whether a blank came
just before. -/
def joinBlanksFrom (mark : Char) (inRun : Bool) : List Char → List Char
  | [] => []
  | c :: rest =>
    if isBlank c then
      if inRun then joinBlanksFrom mark true rest else mark :: joinBlanksFrom mark true rest
    else c :: joinBlanksFrom mark false rest

/-- A text with each run of blanks replaced by one character. -/
def joinBlanks (mark : Char) (cs : List Char) : List Char := joinBlanksFrom mark false cs

example : joinBlanks '_' " a  b".toList = "_a_b".toList := by decide

example : isBlank ' ' && isBlank '\n' && isBlank '\x1c' && isBlank '\u3000' := by decide

example : isBlank 'a' || isBlank '\u200b' || isBlank '\ufeff' = false := by decide

end Rulebook.Text
