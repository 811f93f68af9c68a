/-
Unicode encoding forms: writing and reading text as octets.

`utf8` writes a text; `utf8Decode?` reads one and refuses everything that is not
the encoding of a text.  `decodeUtf8`, `decodeUtf16` and `decodeUtf32` read the
three encoding forms and say, when they refuse, which octets are at fault and
why (`DecodeError`).

Design notes: surrogate code points have no place in a `Char`.  Where a caller
admits encoded surrogates (`lenient`), each one is read as U+FFFD.
-/

namespace ContractDrift.Text

/-- A sequence of octets. -/
abbrev Octets := List UInt8

/-- Why octets are no encoded text: the encoding form, the first offending octet,
its position, the position after the last offending octet, and the reason. -/
structure DecodeError where
  encoding : String
  octet : UInt8
  start : Nat
  stop : Nat
  reason : String
  deriving Repr, DecidableEq, Inhabited

/-- A hexadecimal digit in lower case. -/
def hexDigit (n : Nat) : Char :=
  if n < 10 then Char.ofNat (0x30 + n) else Char.ofNat (0x61 + (n - 10))

/-- The value of a hexadecimal digit of either case. -/
def hexValue? (c : Char) : Option Nat :=
  let n := c.toNat
  if 0x30 ≤ n ∧ n ≤ 0x39 then some (n - 0x30)
  else if 0x61 ≤ n ∧ n ≤ 0x66 then some (n - 0x61 + 10)
  else if 0x41 ≤ n ∧ n ≤ 0x46 then some (n - 0x41 + 10)
  else none

/-- The last `width` hexadecimal digits of `n`, most significant first. -/
def hexDigits : (width : Nat) → (n : Nat) → List Char
  | 0, _ => []
  | w + 1, n => hexDigits w (n / 16) ++ [hexDigit (n % 16)]

/-- The wording of a refusal: one octet is shown, several are only located. -/
def DecodeError.message (e : DecodeError) : String :=
  if e.stop = e.start + 1 then
    s!"'{e.encoding}' codec can't decode byte 0x" ++
      String.ofList (hexDigits 2 e.octet.toNat) ++ s!" in position {e.start}: {e.reason}"
  else
    s!"'{e.encoding}' codec can't decode bytes in position {e.start}-{e.stop - 1}: {e.reason}"

/-! ## UTF-8 -/

/-- The octets of one character. -/
def utf8Char (c : Char) : Octets :=
  let n := c.toNat
  if n < 0x80 then [UInt8.ofNat n]
  else if n < 0x800 then
    [UInt8.ofNat (0xC0 + n / 0x40), UInt8.ofNat (0x80 + n % 0x40)]
  else if n < 0x10000 then
    [UInt8.ofNat (0xE0 + n / 0x1000), UInt8.ofNat (0x80 + n / 0x40 % 0x40),
     UInt8.ofNat (0x80 + n % 0x40)]
  else
    [UInt8.ofNat (0xF0 + n / 0x40000), UInt8.ofNat (0x80 + n / 0x1000 % 0x40),
     UInt8.ofNat (0x80 + n / 0x40 % 0x40), UInt8.ofNat (0x80 + n % 0x40)]

/-- The octets of a list of characters. -/
def utf8Chars (cs : List Char) : Octets := cs.flatMap utf8Char

/-- The octets of a text. -/
def utf8 (s : String) : Octets := utf8Chars s.toList

/-- A text that is given by its characters has their octets. -/
theorem utf8_ofList (cs : List Char) : utf8 (String.ofList cs) = utf8Chars cs := by
  rw [utf8, String.toList_ofList]

/-- What stands at the front of a sequence of octets. -/
inductive Utf8Step where
  /-- A character and the octets after it. -/
  | char (c : Char) (rest : Octets)
  /-- An encoded surrogate (three octets) and the octets after it. -/
  | surrogate (rest : Octets)
  /-- `count` octets that begin no character. -/
  | fault (count : Nat) (reason : String)

/-- Whether an octet is one after the first of a character. -/
def isTail (b : UInt8) : Bool := 0x80 ≤ b && b ≤ 0xBF

/-- What an octet after the first adds to the code point. -/
def tailBits (b : UInt8) : Nat := b.toNat % 0x40

private def invalidContinuation : String := "invalid continuation byte"

private def unexpectedEnd : String := "unexpected end of data"

/-- Reads one character from its first octet `a` and the octets after it. -/
def utf8Step (a : UInt8) (r : Octets) : Utf8Step :=
  if a < 0x80 then .char (Char.ofNat a.toNat) r
  else if a < 0xC2 || 0xF5 ≤ a then .fault 1 "invalid start byte"
  else if a < 0xE0 then
    match r with
    | [] => .fault 1 unexpectedEnd
    | b :: r =>
      if isTail b then .char (Char.ofNat ((a.toNat - 0xC0) * 0x40 + tailBits b)) r
      else .fault 1 invalidContinuation
  else if a < 0xF0 then
    match r with
    | [] => .fault 1 unexpectedEnd
    | b :: r =>
      if !isTail b || (a == 0xE0 && b < 0xA0) then .fault 1 invalidContinuation
      else if a == 0xED && 0xA0 ≤ b then
        match r with
        | c :: r => if isTail c then .surrogate r else .fault 1 invalidContinuation
        | [] => .fault 1 invalidContinuation
      else match r with
        | [] => .fault 2 unexpectedEnd
        | c :: r =>
          if isTail c then
            .char (Char.ofNat ((a.toNat - 0xE0) * 0x1000 + tailBits b * 0x40 + tailBits c)) r
          else .fault 2 invalidContinuation
  else
    match r with
    | [] => .fault 1 unexpectedEnd
    | b :: r =>
      if !isTail b || (a == 0xF0 && b < 0x90) || (a == 0xF4 && 0x90 ≤ b) then
        .fault 1 invalidContinuation
      else match r with
        | [] => .fault 2 unexpectedEnd
        | c :: r =>
          if !isTail c then .fault 2 invalidContinuation
          else match r with
            | [] => .fault 3 unexpectedEnd
            | d :: r =>
              if isTail d then
                .char (Char.ofNat ((a.toNat - 0xF0) * 0x40000 + tailBits b * 0x1000 +
                  tailBits c * 0x40 + tailBits d)) r
              else .fault 3 invalidContinuation

/-- The octets before a position and the characters read from them, newest first. -/
def decodeUtf8From (lenient : Bool) :
    (fuel : Nat) → (pos : Nat) → (acc : List Char) → Octets → Except DecodeError (List Char)
  | 0, _, acc, _ => .ok acc.reverse
  | _ + 1, _, acc, [] => .ok acc.reverse
  | n + 1, pos, acc, a :: r =>
    match utf8Step a r with
    | .char c rest => decodeUtf8From lenient n (pos + (r.length + 1 - rest.length)) (c :: acc) rest
    | .surrogate rest =>
      if lenient then decodeUtf8From lenient n (pos + 3) ('\ufffd' :: acc) rest
      else .error ⟨"utf-8", a, pos, pos + 1, invalidContinuation⟩
    | .fault count reason => .error ⟨"utf-8", a, pos, pos + count, reason⟩

/-- Reads UTF-8; `lenient` admits encoded surrogates. -/
def decodeUtf8 (lenient : Bool) (bs : Octets) : Except DecodeError String :=
  (decodeUtf8From lenient (bs.length + 1) 0 [] bs).map String.ofList

/-- Reads UTF-8, if it is the encoding of a text. -/
def utf8Decode? (bs : Octets) : Option String := (decodeUtf8 false bs).toOption

/-! ## UTF-16 -/

/-- The order in which the octets of a unit are written. -/
inductive ByteOrder where
  | little
  | big
  deriving Repr, DecidableEq, Inhabited

/-- The suffix by which an encoding form names its octet order. -/
def ByteOrder.suffix : ByteOrder → String
  | .little => "le"
  | .big => "be"

private def unit16 (order : ByteOrder) (a b : UInt8) : Nat :=
  match order with
  | .little => b.toNat * 256 + a.toNat
  | .big => a.toNat * 256 + b.toNat

private def isHighSurrogate (n : Nat) : Bool := 0xD800 ≤ n && n < 0xDC00

private def isLowSurrogate (n : Nat) : Bool := 0xDC00 ≤ n && n < 0xE000

private def decodeUtf16From (order : ByteOrder) (lenient : Bool) :
    (fuel : Nat) → (pos : Nat) → (acc : List Char) → Octets → Except DecodeError (List Char)
  | 0, _, acc, _ => .ok acc.reverse
  | _ + 1, _, acc, [] => .ok acc.reverse
  | _ + 1, pos, _, [a] =>
    .error ⟨"utf-16-" ++ order.suffix, a, pos, pos + 1, "truncated data"⟩
  | n + 1, pos, acc, a :: b :: r =>
    let u := unit16 order a b
    let fault (stop : Nat) (reason : String) : Except DecodeError (List Char) :=
      .error ⟨"utf-16-" ++ order.suffix, a, pos, stop, reason⟩
    if isHighSurrogate u then
      match r with
      | c :: d :: r' =>
        let v := unit16 order c d
        if isLowSurrogate v then
          decodeUtf16From order lenient n (pos + 4)
            (Char.ofNat (0x10000 + (u - 0xD800) * 0x400 + (v - 0xDC00)) :: acc) r'
        else if lenient then decodeUtf16From order lenient n (pos + 2) ('\ufffd' :: acc) r
        else fault (pos + 2) "illegal UTF-16 surrogate"
      | _ =>
        if lenient then decodeUtf16From order lenient n (pos + 2) ('\ufffd' :: acc) r
        else fault (pos + 2 + r.length) unexpectedEnd
    else if isLowSurrogate u then
      if lenient then decodeUtf16From order lenient n (pos + 2) ('\ufffd' :: acc) r
      else fault (pos + 2) "illegal encoding"
    else decodeUtf16From order lenient n (pos + 2) (Char.ofNat u :: acc) r

/-- Reads UTF-16 without a byte order mark; positions in errors start at `offset`. -/
def decodeUtf16 (order : ByteOrder) (lenient : Bool) (offset : Nat) (bs : Octets) :
    Except DecodeError String :=
  (decodeUtf16From order lenient (bs.length + 1) offset [] bs).map String.ofList

/-! ## UTF-32 -/

private def unit32 (order : ByteOrder) (a b c d : UInt8) : Nat :=
  match order with
  | .little => ((d.toNat * 256 + c.toNat) * 256 + b.toNat) * 256 + a.toNat
  | .big => ((a.toNat * 256 + b.toNat) * 256 + c.toNat) * 256 + d.toNat

private def decodeUtf32From (order : ByteOrder) (lenient : Bool) :
    (pos : Nat) → (acc : List Char) → Octets → Except DecodeError (List Char)
  | pos, acc, a :: b :: c :: d :: r =>
    let u := unit32 order a b c d
    if 0x110000 ≤ u then
      .error ⟨"utf-32-" ++ order.suffix, a, pos, pos + 4, "code point not in range(0x110000)"⟩
    else if isHighSurrogate u || isLowSurrogate u then
      if lenient then decodeUtf32From order lenient (pos + 4) ('\ufffd' :: acc) r
      else .error ⟨"utf-32-" ++ order.suffix, a, pos, pos + 4,
        "code point in surrogate code point range(0xd800, 0xe000)"⟩
    else decodeUtf32From order lenient (pos + 4) (Char.ofNat u :: acc) r
  | _, acc, [] => .ok acc.reverse
  | pos, _, a :: r =>
    .error ⟨"utf-32-" ++ order.suffix, a, pos, pos + r.length + 1, "truncated data"⟩

/-- Reads UTF-32 without a byte order mark; positions in errors start at `offset`. -/
def decodeUtf32 (order : ByteOrder) (lenient : Bool) (offset : Nat) (bs : Octets) :
    Except DecodeError String :=
  (decodeUtf32From order lenient offset [] bs).map String.ofList

end ContractDrift.Text
