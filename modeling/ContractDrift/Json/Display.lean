/-
JSON values as messages show them.

`display` writes a value on one line: texts between quotes, floats in their shortest
form, arrays in brackets and objects in braces, both in document order.
-/
import ContractDrift.Json.Value
import ContractDrift.Decimal.Shortest
import ContractDrift.Text.Quoted
import ContractDrift.Text.Search

namespace ContractDrift.Json

open ContractDrift.Text (quoted braced)

mutual

/-- A value as messages show it. -/
def display : Value → String
  | .null => "None"
  | .bool b => if b then "True" else "False"
  | .int n => toString n
  | .real x => Decimal.floatText x
  | .text s => quoted s
  | .array xs => "[" ++ ", ".intercalate (displayItems xs) ++ "]"
  | .object m => braced (", ".intercalate (displayMembers m))

/-- The items of an array as messages show them. -/
def displayItems : List Value → List String
  | [] => []
  | x :: xs => display x :: displayItems xs

/-- The members of an object as messages show them. -/
def displayMembers : List (String × Value) → List String
  | [] => []
  | (k, v) :: r => (quoted k ++ ": " ++ display v) :: displayMembers r

end

/-- A value as running text: a text stands for itself. -/
def plain : Value → String
  | .text s => s
  | v => display v

/-- Texts as messages show a list of them. -/
def displayTexts (xs : List String) : String :=
  "[" ++ ", ".intercalate (xs.map quoted) ++ "]"

end ContractDrift.Json
