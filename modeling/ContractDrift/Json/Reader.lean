/-
Reading JSON texts.

`parse` reads one value with blanks around it.  The format is that of JSON with
three more numbers, `NaN`, `Infinity` and `-Infinity`; a control character inside a
text is refused, and so is an integer of more than 4300 digits.  A failure names
its cause (`Fault`) and the place where it was noticed.

Design notes: each reader takes the characters that are left and answers a value
with the characters after it.  The mutual readers recurse on a bound that `parse`
computes from the length of the text: a step from one reader to the next happens at
most twice for one character.  A failure carries the length of the rest, from which
`parse` finds the line and column.
-/
import ContractDrift.Json.Value
import ContractDrift.Decimal.Binary64
import ContractDrift.Text.Encoding
import ContractDrift.Text.Position

namespace ContractDrift.Json

open ContractDrift.Text (Octets DecodeError Position hexValue?)

/-- Why a text is no JSON. -/
inductive Fault where
  | byteOrderMark
  | valueExpected
  | nameExpected
  | colonExpected
  | commaExpected
  | unterminatedText
  | controlCharacter
  | invalidEscape
  | invalidUnicodeEscape
  | extraData
  deriving Repr, DecidableEq, Inhabited

/-- The wording of a fault. -/
def Fault.message : Fault → String
  | .byteOrderMark => "Unexpected UTF-8 BOM (decode using utf-8-sig)"
  | .valueExpected => "Expecting value"
  | .nameExpected => "Expecting property name enclosed in double quotes"
  | .colonExpected => "Expecting ':' delimiter"
  | .commaExpected => "Expecting ',' delimiter"
  | .unterminatedText => "Unterminated string starting at"
  | .controlCharacter => "Invalid control character at"
  | .invalidEscape => "Invalid \\escape"
  | .invalidUnicodeEscape => "Invalid \\uXXXX escape"
  | .extraData => "Extra data"

/-- Why reading failed: a fault at a place, octets that are no text, or an integer
with too many digits. -/
inductive ReadError where
  | malformed (fault : Fault) (place : Position)
  | undecodable (e : DecodeError)
  | tooManyDigits (count : Nat)
  deriving Repr, DecidableEq, Inhabited

/-- The most digits that an integer may have. -/
def digitLimit : Nat := 4300

/-- The wording of a failure. -/
def ReadError.message : ReadError → String
  | .malformed f p => s!"{f.message}: line {p.line} column {p.column} (char {p.offset})"
  | .undecodable e => e.message
  | .tooManyDigits n =>
    s!"Exceeds the limit ({digitLimit} digits) for integer string conversion: value has {n} digits; use sys.set_int_max_str_digits() to increase the limit"

/-- A failure inside the text: a fault with the number of characters left there. -/
inductive Stop where
  | fault (f : Fault) (rest : Nat)
  | digits (count : Nat)

/-- Whether a character may stand between the tokens. -/
def isSpace (c : Char) : Bool := c == ' ' || c == '\t' || c == '\n' || c == '\r'

/-- The characters after the blanks at the front. -/
def skipSpace (cs : List Char) : List Char := cs.dropWhile isSpace

/-- Whether a character is a decimal digit. -/
def isDigit (c : Char) : Bool := '0' ≤ c && c ≤ '9'

/-- A fault where some characters are left. -/
def failAt {α : Type} (f : Fault) (cs : List Char) : Except Stop (α × List Char) :=
  .error (.fault f cs.length)

/-! ## Texts -/

/-- The number written by four hexadecimal digits at the front. -/
def fourHex? : List Char → Option (Nat × List Char)
  | a :: b :: c :: d :: r => do
    let a ← hexValue? a
    let b ← hexValue? b
    let c ← hexValue? c
    let d ← hexValue? d
    pure (((a * 16 + b) * 16 + c) * 16 + d, r)
  | _ => none

/-- The character of a code point; a surrogate is read as U+FFFD. -/
def charOfCode (n : Nat) : Char :=
  if 0xD800 ≤ n ∧ n < 0xE000 then '\ufffd' else Char.ofNat n

/-- The character written by the escape whose characters after the backslash are `cs`;
`u` is how many characters were left at the letter u. -/
def readUnicodeEscape (u : Nat) (cs : List Char) : Except Stop (Char × List Char) :=
  let invalid (rest : Nat) : Except Stop (Char × List Char) := .error (.fault .invalidUnicodeEscape rest)
  if cs.length < 5 then invalid u
  else match fourHex? cs with
    | none => invalid u
    | some (high, r) =>
      if 0xD800 ≤ high ∧ high < 0xDC00 then
        match r with
        | '\\' :: 'u' :: r' =>
          if r'.length < 5 then .ok (charOfCode high, r)
          else match fourHex? r' with
            | none => invalid (r'.length + 1)
            | some (low, r'') =>
              if 0xDC00 ≤ low ∧ low < 0xE000 then
                .ok (Char.ofNat (0x10000 + (high - 0xD800) * 0x400 + (low - 0xDC00)), r'')
              else .ok (charOfCode high, r)
        | _ => .ok (charOfCode high, r)
      else .ok (charOfCode high, r)

/-- The character that a one-letter escape stands for. -/
def simpleEscape? : Char → Option Char
  | '"' => some '"'
  | '\\' => some '\\'
  | '/' => some '/'
  | 'b' => some '\x08'
  | 'f' => some '\x0c'
  | 'n' => some '\n'
  | 'r' => some '\r'
  | 't' => some '\t'
  | _ => none

/-- Reads a text up to its closing quote; `start` is how many characters were left at
the opening quote and `acc` holds the characters read, newest first. -/
def readText (start : Nat) : (fuel : Nat) → (acc : List Char) → List Char →
    Except Stop (String × List Char)
  | 0, _, _ => .error (.fault .unterminatedText start)
  | _ + 1, _, [] => .error (.fault .unterminatedText start)
  | n + 1, acc, c :: r =>
    if c = '"' then .ok (String.ofList acc.reverse, r)
    else if c = '\\' then
      match r with
      | [] => .error (.fault .unterminatedText start)
      | 'u' :: r' => do
        let (x, rest) ← readUnicodeEscape r.length r'
        readText start n (x :: acc) rest
      | e :: r' =>
        match simpleEscape? e with
        | some x => readText start n (x :: acc) r'
        | none => failAt .invalidEscape (c :: r)
    else if c.toNat < 0x20 then failAt .controlCharacter (c :: r)
    else readText start n (c :: acc) r

/-! ## Numbers -/

/-- The number that decimal digits write. -/
def digitsValue (ds : List Char) : Nat :=
  ds.foldl (fun n c => n * 10 + (c.toNat - 0x30)) 0

/-- The digits of a fraction, if a point with a digit follows. -/
def takeFraction : List Char → Option (List Char × List Char)
  | '.' :: c :: r =>
    if isDigit c then some ((c :: r).takeWhile isDigit, (c :: r).dropWhile isDigit) else none
  | _ => none

/-- The value of an exponent, if one with a digit follows. -/
def takeExponent : List Char → Option (Int × List Char)
  | e :: r =>
    if e = 'e' ∨ e = 'E' then
      let (negative, r) := match r with
        | '-' :: r => (true, r)
        | '+' :: r => (false, r)
        | r => (false, r)
      let ds := r.takeWhile isDigit
      if ds.isEmpty then none
      else
        let n : Int := digitsValue (ds.dropWhile (· == '0') |>.take 20)
        some (if negative then -n else n, r.dropWhile isDigit)
    else none
  | [] => none

/-- The digits of the whole part: a zero alone, or digits that start with no zero. -/
def takeWhole : List Char → Option (List Char × List Char)
  | '0' :: r => some (['0'], r)
  | c :: r =>
    if isDigit c then some ((c :: r).takeWhile isDigit, (c :: r).dropWhile isDigit) else none
  | [] => none

/-- Reads a number; without a fraction and an exponent it is an integer. -/
def readNumber (cs : List Char) : Except Stop (Value × List Char) :=
  let (negative, body) := match cs with
    | '-' :: r => (true, r)
    | r => (false, r)
  match takeWhole body with
  | none => failAt .valueExpected cs
  | some (whole, r) =>
    match takeFraction r with
    | some (places, r) =>
      let (e, r) := (takeExponent r).getD (0, r)
      .ok (.real (Decimal.ofDecimal negative (digitsValue (whole ++ places))
        (e - (places.length : Int))), r)
    | none =>
      match takeExponent r with
      | some (e, r) => .ok (.real (Decimal.ofDecimal negative (digitsValue whole) e), r)
      | none =>
        if digitLimit < whole.length then .error (.digits whole.length)
        else .ok (.int (Decimal.signed negative (digitsValue whole)), r)

/-! ## Values -/

/-- The values that are written as a word. -/
def words : List (List Char × Value) :=
  [("null".toList, .null), ("true".toList, .bool true), ("false".toList, .bool false),
   ("NaN".toList, .real Decimal.notANumber), ("Infinity".toList, .real (Decimal.infinity false)),
   ("-Infinity".toList, .real (Decimal.infinity true))]

/-- The value written as a word at the front. -/
def readWord? (cs : List Char) : Option (Value × List Char) :=
  words.findSome? fun (w, v) =>
    if w.isPrefixOf cs then some (v, cs.drop w.length) else none

mutual

/-- Reads one value. -/
def readValue : (fuel : Nat) → List Char → Except Stop (Value × List Char)
  | 0, cs => failAt .valueExpected cs
  | n + 1, cs =>
    match cs with
    | '"' :: r => do
      let (s, rest) ← readText cs.length (r.length + 1) [] r
      pure (.text s, rest)
    | '\x7b' :: r =>
      match skipSpace r with
      | '\x7d' :: r => .ok (.object [], r)
      | r => readMembers n [] r
    | '[' :: r =>
      match skipSpace r with
      | ']' :: r => .ok (.array [], r)
      | r => readItems n [] r
    | _ =>
      match readWord? cs with
      | some found => .ok found
      | none => readNumber cs

/-- Reads the items of an array from the first that is left to the closing bracket. -/
def readItems : (fuel : Nat) → (acc : List Value) → List Char → Except Stop (Value × List Char)
  | 0, _, cs => failAt .valueExpected cs
  | n + 1, acc, cs => do
    let (v, r) ← readValue n cs
    match skipSpace r with
    | ']' :: r => .ok (.array (v :: acc).reverse, r)
    | ',' :: r => readItems n (v :: acc) (skipSpace r)
    | r => failAt .commaExpected r

/-- Reads the members of an object from the first that is left to the closing brace. -/
def readMembers : (fuel : Nat) → (acc : Members) → List Char → Except Stop (Value × List Char)
  | 0, _, cs => failAt .valueExpected cs
  | n + 1, acc, cs =>
    match cs with
    | '"' :: r => do
      let (k, r) ← readText cs.length (r.length + 1) [] r
      match skipSpace r with
      | ':' :: r =>
        let (v, r) ← readValue n (skipSpace r)
        let acc := acc.insert k v
        match skipSpace r with
        | '\x7d' :: r => .ok (.object acc, r)
        | ',' :: r => readMembers n acc (skipSpace r)
        | r => failAt .commaExpected r
      | r => failAt .colonExpected r
    | _ => failAt .nameExpected cs

end

/-- Reads a value that may have blanks around it and nothing else. -/
def readDocument (cs : List Char) : Except Stop Value :=
  match cs with
  | '\ufeff' :: _ => .error (.fault .byteOrderMark cs.length)
  | _ => do
    let (v, r) ← readValue (2 * cs.length + 2) (skipSpace cs)
    match skipSpace r with
    | [] => pure v
    | r => .error (.fault .extraData r.length)

/-- Reads a JSON text. -/
def parseChars (cs : List Char) : Except ReadError Value :=
  match readDocument cs with
  | .ok v => .ok v
  | .error (.fault f rest) => .error (.malformed f (Text.positionOf cs rest))
  | .error (.digits n) => .error (.tooManyDigits n)

/-- Reads a JSON text. -/
def parse (s : String) : Except ReadError Value := parseChars s.toList

/-! ## Octets -/

/-- The text of JSON octets.  Marks at the front decide the encoding form; without
one, the places of zero octets among the first four do. -/
def decodeOctets (bs : Octets) : Except DecodeError String :=
  match bs with
  | 0x00 :: 0x00 :: 0xFE :: 0xFF :: r => Text.decodeUtf32 .big true 4 r
  | 0xFF :: 0xFE :: 0x00 :: 0x00 :: r => Text.decodeUtf32 .little true 4 r
  | 0xFE :: 0xFF :: r => Text.decodeUtf16 .big true 2 r
  | 0xFF :: 0xFE :: r => Text.decodeUtf16 .little true 2 r
  | 0xEF :: 0xBB :: 0xBF :: r => Text.decodeUtf8 true r
  | a :: b :: c :: d :: _ =>
    if a == 0 then
      if b == 0 then Text.decodeUtf32 .big true 0 bs else Text.decodeUtf16 .big true 0 bs
    else if b == 0 then
      if c == 0 && d == 0 then Text.decodeUtf32 .little true 0 bs
      else Text.decodeUtf16 .little true 0 bs
    else Text.decodeUtf8 true bs
  | [a, b] =>
    if a == 0 then Text.decodeUtf16 .big true 0 bs
    else if b == 0 then Text.decodeUtf16 .little true 0 bs
    else Text.decodeUtf8 true bs
  | _ => Text.decodeUtf8 true bs

/-- Reads JSON octets. -/
def parseOctets (bs : Octets) : Except ReadError Value :=
  match decodeOctets bs with
  | .ok s => parse s
  | .error e => .error (.undecodable e)

end ContractDrift.Json
