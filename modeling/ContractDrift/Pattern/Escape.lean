/-
What the escapes of a pattern stand for, inside a set of characters and outside.
-/
import ContractDrift.Pattern.Source

namespace ContractDrift.Pattern

/-- The control characters and the backslash, by their letters. -/
def controlOf? (c : Char) : Option Nat :=
  [('a', 7), ('b', 8), ('f', 12), ('n', 10), ('r', 13), ('t', 9), ('v', 11), ('\\', 0x5C)].lookup c

/-- The classes of characters and their complements, by their letters. -/
def classOf? (c : Char) : Option SetItem :=
  [('d', SetItem.ofClass false .digit), ('D', .ofClass true .digit),
   ('s', .ofClass false .space), ('S', .ofClass true .space),
   ('w', .ofClass false .word), ('W', .ofClass true .word)].lookup c

/-- The anchors, by their letters. -/
def anchorOf? (c : Char) : Option Anchor :=
  [('A', Anchor.textStart), ('b', .wordBoundary), ('B', .noWordBoundary),
   ('Z', .textEnd)].lookup c

/-- The set that holds one character. -/
def SetItem.single (code : Nat) : SetItem := .range code code

private def isOctal (c : Char) : Bool := '0' ≤ c && c ≤ '7'

private def isHex (c : Char) : Bool := (Text.hexValue? c).isSome

private def octalValue (cs : List Char) : Nat :=
  cs.foldl (fun acc c => acc * 8 + (c.toNat - 0x30)) 0

private def hexNumber (cs : List Char) : Nat :=
  cs.foldl (fun acc c => acc * 16 + (Text.hexValue? c).getD 0) 0

/-- The code of an escape of `count` hexadecimal digits. -/
def hexEscape (letter : Char) (count : Nat) : Reading Nat := do
  let digits ← takeSome isHex count
  let written := '\\' :: letter :: digits
  if digits.length ≠ count then
    refuse (.incompleteEscape (String.ofList written)) written.length
  let code := hexNumber digits
  if 0x10FFFF < code then refuse (.badEscape (String.ofList written)) written.length
  return code

/-- Refuses an escape that names a character: there are no such names here. -/
def namedEscape : Reading Nat := do
  if !(← accept '\x7b') then refuse (.missing "\x7b") 0
  let name ← takeName '\x7d' "character name"
  refuse (.unknownCharacter name) (name.length + 4)

/-- The code of an escape of octal digits; `digits` are those already taken. -/
def octalEscape (digits : List Char) : Reading Nat := do
  let written := '\\' :: digits
  let code := octalValue digits
  if 0o377 < code then refuse (.octalTooLarge (String.ofList written)) written.length
  return code

/-- The code of an escape that means the same in a set and outside, after its letter. -/
def plainEscape (c : Char) : Reading Nat := do
  match c with
  | 'x' => hexEscape c 2
  | 'u' => hexEscape c 4
  | 'U' => hexEscape c 8
  | 'N' => namedEscape
  | _ => if c.isAlphanum then refuse (.badEscape (Token.escape c).text) 2 else return c.toNat

/-- What an escape stands for in a set. -/
def setEscape (c : Char) : Reading SetItem := do
  match controlOf? c, classOf? c with
  | some code, _ => return .single code
  | none, some item => return item
  | none, none =>
    if isOctal c then return .single (← octalEscape (c :: (← takeSome isOctal 2)))
    else return .single (← plainEscape c)

/-- What an escape of digits stands for outside a set: a character if it starts with
zero or has three octal digits, else a group. -/
def digitEscape (c : Char) : Reading Node := do
  if c = '0' then
    return .literal (octalValue (c :: (← takeSome isOctal 2)))
  let second ← takeSome Char.isDigit 1
  if isOctal c && second.any isOctal then
    let third ← takeSome isOctal 1
    if !third.isEmpty then return .literal (← octalEscape (c :: second ++ third))
  let digits := c :: second
  let group := digits.foldl (fun acc c => acc * 10 + (c.toNat - 0x30)) 0
  let s ← get
  if s.groups ≤ group then refuse (.noSuchGroup group) digits.length
  if (s.width? group).isNone then refuse .openGroup (digits.length + 1)
  checkLookBehind group
  return .backreference group

/-- What an escape stands for outside a set. -/
def nodeEscape (c : Char) : Reading Node := do
  match anchorOf? c, classOf? c, controlOf? c with
  | some a, _, _ => return .anchor a
  | none, some item, _ => return .set false [item]
  | none, none, some code => return .literal code
  | none, none, none =>
    if c.isDigit then digitEscape c else return .literal (← plainEscape c)

end ContractDrift.Pattern
