/-
JSON values laid out over several lines.

`layout` writes a value as messages show it, on one line if it fits in the width.  What
does not fit is broken: an object member by member, an array item by item, and a text
at the ends of its lines and words.
-/
import ContractDrift.Json.Display
import ContractDrift.Text.Blank

namespace ContractDrift.Json

open ContractDrift.Text (quoted braced)

/-- Whether a character ends a line. -/
def endsLine (c : Char) : Bool :=
  c == '\n' || c == '\r' || c == '\x0b' || c == '\x0c' ||
    (0x1C ≤ c.toNat && c.toNat ≤ 0x1E) || c.toNat == 0x85 || c.toNat == 0x2028 || c.toNat == 0x2029

/-- The lines of a text with their ends; `line` is what is read of the current one, newest
character first. -/
def splitLines (line : List Char) : List Char → List (List Char)
  | [] => if line.isEmpty then [] else [line.reverse]
  | '\r' :: '\n' :: r => ('\n' :: '\r' :: line).reverse :: splitLines [] r
  | c :: r =>
    if endsLine c then (c :: line).reverse :: splitLines [] r else splitLines (c :: line) r

/-- The words of a line, each with the blanks after it; `word` is what is read of the
current one, newest character first. -/
def splitWords (word : List Char) : List Char → List (List Char)
  | [] => if word.isEmpty then [] else [word.reverse]
  | [c] => [(c :: word).reverse]
  | c :: d :: r =>
    if Text.isBlank c && !Text.isBlank d then (c :: word).reverse :: splitWords [] (d :: r)
    else splitWords (c :: word) (d :: r)

/-- The width of characters when they are quoted. -/
def quotedWidth (cs : List Char) : Nat := (quoted (String.ofList cs)).length

/-- Words put together as far as they fit; the last one leaves room for `allowance`. -/
def fillWords (room allowance : Nat) (current : List Char) : List (List Char) →
    List (List Char)
  | [] => if current.isEmpty then [] else [current]
  | word :: r =>
    let needed := quotedWidth (current ++ word) + (if r.isEmpty then allowance else 0)
    if room < needed then
      if current.isEmpty then fillWords room allowance word r
      else current :: fillWords room allowance word r
    else fillWords room allowance (current ++ word) r

/-- The pieces of a text, each with its quotes no wider than the room if possible. -/
def textPieces (room allowance : Nat) : List (List Char) → List (List Char)
  | [] => []
  | line :: r =>
    let after := if r.isEmpty then allowance else 0
    (if quotedWidth line + after ≤ room then [line]
      else fillWords room after [] (splitWords [] line)) ++ textPieces room allowance r

private def newline (indent : Nat) : String := "\n" ++ Text.repeated " " indent

/-- A text that does not fit, in pieces; the outermost one is put in parentheses. -/
def layoutText (width indent allowance : Nat) (outermost : Bool) (s : String) : String :=
  let indent := if outermost then indent + 1 else indent
  let allowance := if outermost then allowance + 1 else allowance
  let pieces := (textPieces (width - indent) allowance (splitLines [] s.toList)).map fun p =>
    quoted (String.ofList p)
  match pieces with
  | [] => quoted s
  | [_] => quoted s
  | _ =>
    let body := (newline indent).intercalate pieces
    if outermost then "(" ++ body ++ ")" else body

mutual

/-- A value laid out from a column, with room left for what follows it. -/
def layoutFrom (width indent allowance : Nat) (outermost : Bool) (v : Value) : String :=
  if (display v).length + indent + allowance ≤ width then display v
  else match v with
    | .text s => layoutText width indent allowance outermost s
    | .array xs => "[" ++ layoutItems width (indent + 1) (allowance + 1) xs ++ "]"
    | .object m => braced (layoutMembers width (indent + 1) (allowance + 1) m)
    | v => display v

/-- The items of an array, one a line. -/
def layoutItems (width indent allowance : Nat) : List Value → String
  | [] => ""
  | [x] => layoutFrom width indent allowance false x
  | x :: y :: r =>
    layoutFrom width indent 1 false x ++ "," ++ newline indent ++
      layoutItems width indent allowance (y :: r)

/-- The members of an object, one a line. -/
def layoutMembers (width indent allowance : Nat) : List (String × Value) → String
  | [] => ""
  | [(k, v)] => quoted k ++ ": " ++
    layoutFrom width (indent + (quoted k).length + 2) allowance false v
  | (k, v) :: e :: r =>
    quoted k ++ ": " ++ layoutFrom width (indent + (quoted k).length + 2) 1 false v ++ "," ++
      newline indent ++ layoutMembers width indent allowance (e :: r)

end

/-- A value laid out within a width. -/
def layout (width : Nat) (v : Value) : String := layoutFrom width 0 0 true v

end ContractDrift.Json
