/-
Writing JSON texts.

`write` gives the shortest text of a value and `writeIndented` one with each item
and member on a line of its own.  Only the quote, the backslash and the control
characters are escaped; every other character is written as it is.
-/
import ContractDrift.Json.Value
import ContractDrift.Decimal.Shortest
import ContractDrift.Text.Encoding
import ContractDrift.Text.Search

namespace ContractDrift.Json

open ContractDrift.Text (hexDigits braced repeated)

/-- How a character is written in a JSON text. -/
def writtenChar (c : Char) : List Char :=
  match c with
  | '"' => ['\\', '"']
  | '\\' => ['\\', '\\']
  | '\x08' => ['\\', 'b']
  | '\x0c' => ['\\', 'f']
  | '\n' => ['\\', 'n']
  | '\r' => ['\\', 'r']
  | '\t' => ['\\', 't']
  | c => if c.toNat < 0x20 then '\\' :: 'u' :: hexDigits 4 c.toNat else [c]

/-- A text between double quotes. -/
def writeText (s : String) : String :=
  String.ofList ('"' :: s.toList.flatMap writtenChar ++ ['"'])

/-- A float; infinities and not-a-number are written as words. -/
def writeReal (x : Float) : String :=
  match Decimal.Binary64.ofFloat x with
  | .nan => "NaN"
  | .infinite neg => if neg then "-Infinity" else "Infinity"
  | .finite .. => Decimal.floatText x

mutual

/-- A value with no blanks. -/
def write : Value → String
  | .null => "null"
  | .bool b => if b then "true" else "false"
  | .int n => toString n
  | .real x => writeReal x
  | .text s => writeText s
  | .array xs => "[" ++ ",".intercalate (writeItems xs) ++ "]"
  | .object m => braced (",".intercalate (writeMembers m))

/-- The items of an array, each with no blanks. -/
def writeItems : List Value → List String
  | [] => []
  | x :: xs => write x :: writeItems xs

/-- The members of an object, each with no blanks. -/
def writeMembers : List (String × Value) → List String
  | [] => []
  | (k, v) :: r => (writeText k ++ ":" ++ write v) :: writeMembers r

end

/-- The lines of a bracketed block, each `step` deeper than the `margin`. -/
def block (opening closing : String) (step margin : Nat) : List String → String
  | [] => opening ++ closing
  | lines =>
    let inner := "\n" ++ repeated " " (margin + step)
    opening ++ inner ++ ("," ++ inner).intercalate lines ++ "\n" ++ repeated " " margin ++ closing

mutual

/-- A value with each item on its own line, `step` blanks deeper than the `margin`
of what holds it. -/
def writeIndentedAt (step margin : Nat) : Value → String
  | .array xs => block "[" "]" step margin (indentedItems step (margin + step) xs)
  | .object m => block "\x7b" "\x7d" step margin (indentedMembers step (margin + step) m)
  | .null => "null"
  | .bool b => if b then "true" else "false"
  | .int n => toString n
  | .real x => writeReal x
  | .text s => writeText s

/-- The items of an array at a margin. -/
def indentedItems (step margin : Nat) : List Value → List String
  | [] => []
  | x :: xs => writeIndentedAt step margin x :: indentedItems step margin xs

/-- The members of an object at a margin. -/
def indentedMembers (step margin : Nat) : List (String × Value) → List String
  | [] => []
  | (k, v) :: r =>
    (writeText k ++ ": " ++ writeIndentedAt step margin v) :: indentedMembers step margin r

end

/-- A value with each item and member on its own line, indented by `step` blanks. -/
def writeIndented (step : Nat) (v : Value) : String := writeIndentedAt step 0 v

end ContractDrift.Json
