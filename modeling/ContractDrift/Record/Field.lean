/-
Reading the fields of records from JSON values.

A field is read by what it has to be: a text, a truth value, a number above zero, one of
some words, or a list of texts.  What does not fit is an `Issue`, with the place of the
value in the record; a record that has issues has all of them reported, in the order of
its fields.

Design notes: some spellings are read as what they mean: a truth value can be given as a
number or a word, and a number as a text.
-/
import ContractDrift.Json.Reader
import ContractDrift.Text.Integer
import ContractDrift.Text.Search

namespace ContractDrift.Record

open ContractDrift.Json (Value Members)

/-- What is wrong with a value. -/
inductive Complaint where
  | missing
  | notText
  | notTruth
  /-- A number or text that is no truth value. -/
  | unclearTruth
  | notNumber
  /-- A text that is no number. -/
  | unclearNumber
  | notPositive
  | notList
  | notOneOf (choices : List String)
  deriving Repr, DecidableEq, Inhabited

/-- Words in a row, the last one after "or". -/
def alternatives : List String → String
  | [] => ""
  | [a] => "'" ++ a ++ "'"
  | [a, b] => "'" ++ a ++ "' or '" ++ b ++ "'"
  | a :: r => "'" ++ a ++ "', " ++ alternatives r

/-- The wording of a complaint. -/
def Complaint.message : Complaint → String
  | missing => "Field required"
  | notText => "Input should be a valid string"
  | notTruth => "Input should be a valid boolean"
  | unclearTruth => "Input should be a valid boolean, unable to interpret input"
  | notNumber => "Input should be a valid number"
  | unclearNumber => "Input should be a valid number, unable to parse string as a number"
  | notPositive => "Input should be greater than 0"
  | notList => "Input should be a valid list"
  | notOneOf choices => "Input should be " ++ alternatives choices

/-- A complaint about the value at a place of a record. -/
structure Issue where
  place : List String
  complaint : Complaint
  deriving Repr, DecidableEq, Inhabited

/-- A value that has been read, or the issues with it. -/
abbrev Checked (α : Type) := Except (List Issue) α

/-- One issue with a field. -/
def refuse {α : Type} (field : String) (c : Complaint) : Checked α := .error [⟨[field], c⟩]

/-- Two readings as one: the issues of both are kept. -/
def both {α β : Type} (a : Checked α) (b : Checked β) : Checked (α × β) :=
  match a, b with
  | .ok x, .ok y => .ok (x, y)
  | .ok _, .error e => .error e
  | .error e, .ok _ => .error e
  | .error e, .error e' => .error (e ++ e')

/-! ## Values -/

/-- A text. -/
def text (field : String) : Value → Checked String
  | .text s => .ok s
  | _ => refuse field .notText

/-- A text, or none. -/
def text? (field : String) : Value → Checked (Option String)
  | .null => .ok none
  | v => (text field v).map some

/-- One of some words. -/
def word {α : Type} (field : String) (choices : List (String × α)) (v : Value) : Checked α :=
  match v with
  | .text s =>
    match choices.lookup s with
    | some a => .ok a
    | none => refuse field (.notOneOf (choices.map (·.1)))
  | _ => refuse field (.notOneOf (choices.map (·.1)))

/-- One of some words, or none. -/
def word? {α : Type} (field : String) (choices : List (String × α)) : Value →
    Checked (Option α)
  | .null => .ok none
  | v => (word field choices v).map some

/-- The words for true and for false. -/
def truthWords : List String × List String :=
  (["1", "on", "t", "true", "y", "yes"], ["0", "off", "f", "false", "n", "no"])

/-- The truth value that a word means, in letters of any case. -/
def truthOfWord? (s : String) : Option Bool :=
  let lower := String.ofList (s.toList.map Char.toLower)
  if truthWords.1.contains lower then some true
  else if truthWords.2.contains lower then some false
  else none

/-- The truth value that a number means. -/
def truthOfInt? (n : Int) : Option Bool :=
  if n = 0 then some false else if n = 1 then some true else none

/-- The bound of the integers that a float can mean. -/
def wordBound : Int := Int.pow 2 63

/-- A truth value. -/
def truth (field : String) (v : Value) : Checked Bool :=
  let meant (b : Option Bool) : Checked Bool :=
    match b with
    | some b => .ok b
    | none => refuse field .unclearTruth
  match v with
  | .bool b => .ok b
  | .int n => meant (truthOfInt? n)
  | .text s => meant (truthOfWord? s)
  | .real x =>
    match Decimal.integral? x with
    | some n => if n.natAbs < wordBound.natAbs then meant (truthOfInt? n) else refuse field .notTruth
    | none => refuse field .notTruth
  | _ => refuse field .notTruth

/-- Divides digits from what follows them. -/
def takeDigits (cs : List Char) : List Char × List Char :=
  (cs.takeWhile Char.isDigit, cs.dropWhile Char.isDigit)

/-- The float that an unsigned decimal numeral means. -/
def unsignedNumeral? (negative : Bool) (cs : List Char) : Option Float := do
  let (whole, r) := takeDigits cs
  let (fraction, r) := match r with
    | '.' :: r => takeDigits r
    | r => ([], r)
  if whole.isEmpty && fraction.isEmpty then none
  let digits := (whole ++ fraction).foldl (fun n c => n * 10 + (c.toNat - 0x30)) 0
  let exponent : Int ← (match r with
    | [] => some 0
    | e :: r =>
      if e = 'e' || e = 'E' then
        let (isMinus, r) := Text.splitSign r
        let (ds, r) := takeDigits r
        if ds.isEmpty || !r.isEmpty then none
        else
          let n : Nat := ds.foldl (fun n c => n * 10 + (c.toNat - 0x30)) 0
          some (if isMinus then -(n : Int) else n)
      else none)
  return Decimal.ofDecimal negative digits (exponent - fraction.length)

/-- The float that a numeral means: a decimal numeral, an infinity or not-a-number, with an
optional sign. -/
def signedNumeral? (cs : List Char) : Option Float :=
  let (negative, r) := Text.splitSign cs
  let lower := String.ofList (r.map Char.toLower)
  if lower = "inf" || lower = "infinity" then some (Decimal.infinity negative)
  else if lower = "nan" then some Decimal.notANumber
  else unsignedNumeral? negative r

/-- Whether underscores stand only inside a text and never two together. -/
def underscoresFit (cs : List Char) : Bool :=
  cs.head? != some '_' && cs.getLast? != some '_' && !Text.contains ['_', '_'] cs

private def isMargin (c : Char) : Bool := Text.isBlank c && !(0x1C ≤ c.toNat && c.toNat ≤ 0x1F)

/-- The float that a text means: a numeral between blanks, or one with underscores. -/
def numeral? (s : String) : Option Float :=
  let cs := s.toList
  let bare := ((cs.dropWhile isMargin).reverse.dropWhile isMargin).reverse
  (signedNumeral? bare).orElse fun _ =>
    if underscoresFit cs then signedNumeral? (cs.filter (· != '_')) else none

/-- A number. -/
def number (field : String) : Value → Checked Float
  | .real x => .ok x
  | .int n =>
    match Decimal.ofInt? n with
    | some x => .ok x
    | none => refuse field .notNumber
  | .bool b => .ok (if b then 1.0 else 0.0)
  | .text s =>
    match numeral? s with
    | some x => .ok x
    | none => refuse field .unclearNumber
  | _ => refuse field .notNumber

/-- A number above zero. -/
def positiveNumber (field : String) (v : Value) : Checked Float := do
  let x ← number field v
  if 0 < x then return x else refuse field .notPositive

/-- A list of texts; the issues of all items are reported. -/
def texts (field : String) (v : Value) : Checked (List String) :=
  match v with
  | .array xs =>
    let issues := (xs.zipIdx).filterMap fun (x, i) =>
      if x.isText then none else some ⟨[field, toString i], Complaint.notText⟩
    if issues.isEmpty then .ok (xs.filterMap Value.text?) else .error issues
  | _ => refuse field .notList

/-! ## Fields -/

/-- A field that has to be there. -/
def required {α : Type} (m : Members) (field : String) (read : String → Value → Checked α) :
    Checked α :=
  match m.get? field with
  | some v => read field v
  | none => refuse field .missing

/-- A field that has a value when it is not there. -/
def optional {α : Type} (m : Members) (field : String) (read : String → Value → Checked α)
    (otherwise : α) : Checked α :=
  match m.get? field with
  | some v => read field v
  | none => .ok otherwise

end ContractDrift.Record
