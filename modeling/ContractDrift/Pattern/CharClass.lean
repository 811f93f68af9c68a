/-
Classes of characters that patterns name, and letters that differ in case only.
-/
import ContractDrift.Text.Blank
import ContractDrift.Text.Alphanumeric
import ContractDrift.Text.LetterCase

namespace ContractDrift.Pattern

/-- A class of characters. -/
inductive CharClass where
  | digit
  | space
  | word
  deriving Repr, DecidableEq, Inhabited

/-- Whether a character is in a class; `ascii` keeps the class to ASCII. -/
def CharClass.holds (k : CharClass) (ascii : Bool) (c : Char) : Bool :=
  if ascii && 0x80 ≤ c.toNat then false
  else match k with
    | .digit => Text.isDecimalDigit c
    | .space => if ascii then (0x09 ≤ c.toNat && c.toNat ≤ 0x0D) || c == ' ' else Text.isBlank c
    | .word => Text.isWordChar c

/-- Lower case letters that differ in form but not in case. -/
def sameLetters : List (List Nat) :=
  [[0x69, 0x131], [0x73, 0x17F], [0xB5, 0x3BC], [0x345, 0x3B9, 0x1FBE], [0x390, 0x1FD3],
   [0x3B0, 0x1FE3], [0x3B2, 0x3D0], [0x3B5, 0x3F5], [0x3B8, 0x3D1], [0x3BA, 0x3F0],
   [0x3C0, 0x3D6], [0x3C1, 0x3F1], [0x3C2, 0x3C3], [0x3C6, 0x3D5], [0x432, 0x1C80],
   [0x434, 0x1C81], [0x43E, 0x1C82], [0x441, 0x1C83], [0x442, 0x1C84, 0x1C85], [0x44A, 0x1C86],
   [0x463, 0x1C87], [0x1C88, 0xA64B], [0x1E61, 0x1E9B], [0xFB05, 0xFB06]]

/-- The characters that count as the given one when case is ignored; `ascii` keeps the
comparison to ASCII letters. -/
def caseVariants (ascii : Bool) (c : Char) : List Char :=
  if ascii then [c, c.toLower, c.toUpper]
  else
    let l := Text.lowerChar c
    let others := ((sameLetters.find? (·.contains l.toNat)).getD []).map Char.ofNat
    c :: l :: Text.upperChar c :: Text.upperChar l :: (others ++ others.map Text.upperChar)

end ContractDrift.Pattern
