/-
Integers as people write them: digits of any script, with single underscores between
them, after an optional sign and between blanks.
-/
import ContractDrift.Text.Alphanumeric
import ContractDrift.Text.Blank
import ContractDrift.Text.Encoding

namespace ContractDrift.Text

/-- The values of digits with single underscores between them. -/
def groupedDigits? (digit? : Char → Option Nat) : List Char → Option (List Nat)
  | [] => none
  | [c] => (digit? c).map ([·])
  | c :: '_' :: r => do return (← digit? c) :: (← groupedDigits? digit? r)
  | c :: r => do return (← digit? c) :: (← groupedDigits? digit? r)

/-- The number that digits stand for in a base. -/
def numberOf (base : Nat) (digits : List Nat) : Nat :=
  digits.foldl (fun acc d => acc * base + d) 0

/-- The sign in front, as whether it is a minus, and the rest. -/
def splitSign : List Char → Bool × List Char
  | '-' :: r => (true, r)
  | '+' :: r => (false, r)
  | r => (false, r)

/-- The integer that a text in base ten stands for. -/
def integer? (cs : List Char) : Option Int := do
  let (negative, r) := splitSign (trimChars cs)
  let n := numberOf 10 (← groupedDigits? decimalDigitValue? r)
  return if negative then -(n : Int) else n

private def hexDigit? (c : Char) : Option Nat := (decimalDigitValue? c).orElse fun _ => hexValue? c

/-- The integer that a text in base sixteen stands for; `0x` may stand in front. -/
def hexInteger? (cs : List Char) : Option Int := do
  let (negative, r) := splitSign (trimChars cs)
  let r := match r with
    | '0' :: x :: '_' :: r => if x = 'x' ∨ x = 'X' then r else '0' :: x :: '_' :: r
    | '0' :: x :: r => if x = 'x' ∨ x = 'X' then r else '0' :: x :: r
    | r => r
  let n := numberOf 16 (← groupedDigits? hexDigit? r)
  return if negative then -(n : Int) else n

end ContractDrift.Text
