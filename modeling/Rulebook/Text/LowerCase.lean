import Rulebook.Text.Casing

/-!
# Lower case

The lower case of a text. Letters are lowered one by one, with two exceptions: the dotted capital
`İ` becomes two characters, and a capital sigma becomes the final form `ς` at the end of a word.

## Main definitions

* `lowerChar`: the lower case of one character, outside any context;
* `lower`: the lower case of a text.
-/

namespace Rulebook.Text

/-- The lower case of one character, outside any context. -/
def lowerChar (c : Char) : List Char :=
  if c.toNat < 0x80 then
    if 'A' ≤ c ∧ c ≤ 'Z' then [Char.ofNat (c.toNat + 0x20)] else [c]
  else if c.toNat = 0x130 then ['i', '\u0307']
  else [(caseRuns.findSome? fun run => run.lower? c.toNat).elim c Char.ofNat]

/-- Is the first character that a casing context does not pass over a cased one? -/
def nextIsCased (cs : List Char) : Bool :=
  match cs.dropWhile caseIgnorable.holds with
  | [] => false
  | c :: _ => cased.holds c

/-- The lower case of the rest of a text, `before` being the characters before it, the nearest
first. A capital sigma ends a word when a cased character stands before it and none after it. -/
def lowerFrom (before : List Char) : List Char → List Char
  | [] => []
  | c :: rest =>
    let lowered :=
      if c = 'Σ' then [if nextIsCased before && !nextIsCased rest then 'ς' else 'σ']
      else lowerChar c
    lowered ++ lowerFrom (c :: before) rest

/-- The lower case of a text. -/
def lower (cs : List Char) : List Char := lowerFrom [] cs

end Rulebook.Text
