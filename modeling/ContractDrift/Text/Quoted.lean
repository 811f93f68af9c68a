/-
Texts as messages show them.

`quoted` puts a text between apostrophes, or between double quotes when it holds an
apostrophe and no double quote.  Inside, the backslash, the enclosing quote and
every character without a visible form are written as escapes.
-/
import ContractDrift.Text.Encoding
import ContractDrift.Text.Printable

namespace ContractDrift.Text

/-- The escape of a character by its code point, in the fewest of two, four or eight
digits. -/
def codeEscape (n : Nat) : List Char :=
  if n < 0x100 then '\\' :: 'x' :: hexDigits 2 n
  else if n < 0x10000 then '\\' :: 'u' :: hexDigits 4 n
  else '\\' :: 'U' :: hexDigits 8 n

/-- How a character is written between two `quote`s. -/
def escapedChar (quote c : Char) : List Char :=
  if c = quote ∨ c = '\\' then ['\\', c]
  else if c = '\n' then ['\\', 'n']
  else if c = '\r' then ['\\', 'r']
  else if c = '\t' then ['\\', 't']
  else if isPrintable c then [c]
  else codeEscape c.toNat

/-- The quote that encloses a text. -/
def enclosingQuote (cs : List Char) : Char :=
  if cs.contains '\'' && !cs.contains '"' then '"' else '\''

/-- A text between quotes. -/
def quoted (s : String) : String :=
  let cs := s.toList
  let q := enclosingQuote cs
  String.ofList (q :: cs.flatMap (escapedChar q) ++ [q])

end ContractDrift.Text
