/-
The formats of texts that are checked.
-/
import ContractDrift.Pattern.Parser
import ContractDrift.Text.Integer
import ContractDrift.Text.Search
import ContractDrift.Uri.HostAddress

namespace ContractDrift.Schema

/-- A format that is checked. -/
inductive Format where
  | date
  | email
  | idnEmail
  | ipv4
  | ipv6
  | regex
  | time
  | uuid
  deriving Repr, DecidableEq, Inhabited

namespace Format

/-- All formats, by their names. -/
def named : List (String × Format) :=
  [("date", date), ("email", email), ("idn-email", idnEmail), ("ipv4", ipv4), ("ipv6", ipv6),
   ("regex", regex), ("time", time), ("uuid", uuid)]

private def digitsOf (count : Nat) (cs : List Char) : Option Nat :=
  if cs.length = count && cs.all Char.isDigit then
    some (Text.numberOf 10 (cs.map fun c => c.toNat - 0x30))
  else none

/-- The number of days of a month. -/
def daysInMonth (year month : Nat) : Nat :=
  if month = 2 then
    if year % 4 = 0 && (year % 100 ≠ 0 || year % 400 = 0) then 29 else 28
  else if [4, 6, 9, 11].contains month then 30 else 31

/-- Whether a text is a day of a year from 1 on, with four, two and two digits. -/
def isDate (cs : List Char) : Bool :=
  match Text.splitAll '-' cs with
  | [y, m, d] =>
    match digitsOf 4 y, digitsOf 2 m, digitsOf 2 d with
    | some y, some m, some d => 1 ≤ y && 1 ≤ m && m ≤ 12 && 1 ≤ d && d ≤ daysInMonth y m
    | _, _, _ => false
  | _ => false

/-- Whether a text is a number below sixty, or below twenty-four for hours, in at most two
digits of any script; the first of two is of ASCII. -/
def isTimePart (hours : Bool) : List Char → Bool
  | [d] => Text.isDecimalDigit d
  | [t, d] =>
    if hours then
      ((t == '0' || t == '1') && Text.isDecimalDigit d) || (t == '2' && '0' ≤ d && d ≤ '3')
    else '0' ≤ t && t ≤ '5' && Text.isDecimalDigit d
  | _ => false

/-- Whether a text is a time of day: hours, minutes and seconds. -/
def isTime (cs : List Char) : Bool :=
  match Text.splitAll ':' cs with
  | [h, m, s] => isTimePart true h && isTimePart false m && isTimePart false s
  | _ => false

/-- A text without the outermost braces. -/
def stripBraces (cs : List Char) : List Char :=
  let isBrace (c : Char) : Bool := c == '\x7b' || c == '\x7d'
  ((cs.dropWhile isBrace).reverse.dropWhile isBrace).reverse

/-- Whether a text is a number of 32 hexadecimal digits, with dashes in the usual places. -/
def isUuid (cs : List Char) : Bool :=
  let bare := Text.replaceAll "uuid:".toList [] (Text.replaceAll "urn:".toList [] cs)
  let digits := (stripBraces bare).filter (· != '-')
  digits.length = 32 &&
    (match Text.hexInteger? digits with
      | some n => 0 ≤ n && n < Int.pow 2 128
      | none => false) &&
    [8, 13, 18, 23].all fun i => cs[i]? == some '-'

/-- Whether a text has a format; a pattern can make a demand that no search can meet. -/
def check (f : Format) (s : String) : Except Pattern.ReadError Bool :=
  match f with
  | date => return isDate s.toList
  | email => return s.toList.contains '@'
  | idnEmail => return s.toList.contains '@'
  | ipv4 => return Uri.isIpv4 s.toList
  | ipv6 => return Uri.isIpv6 s.toList
  | time => return isTime s.toList
  | uuid => return isUuid s.toList
  | regex =>
    match Pattern.Regex.parse s with
    | .ok _ => return true
    | .error e => if e.fault.isWriting then return false else throw e

end Format

end ContractDrift.Schema
