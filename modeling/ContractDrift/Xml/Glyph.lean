/-
Documents as sequences of glyphs.

A glyph is what a reader sees at one place of a document: a character that a
document may hold, octets that are none (`bad`), or the beginning of a character at
the very end (`cut`).  `Form` says how octets are read; `Form.detect` finds it from
the first octets.

Places are given by what is left of the document: `placeOf` turns that into a line
and a column, where a carriage return, a line feed and the two together each end a
line.
-/
import ContractDrift.Text.Encoding
import ContractDrift.Xml.NameChar

namespace ContractDrift.Xml

open ContractDrift.Text (Octets ByteOrder)

/-- What a reader sees at one place of a document. -/
inductive Glyph where
  | char (c : Char)
  | bad
  | cut
  deriving Repr, DecidableEq, Inhabited

/-- A document, or what is left of it. -/
abbrev Source := List Glyph

/-- How the octets of a document are read. -/
inductive Form where
  | utf8
  | utf16 (order : ByteOrder)
  /-- One octet for each character, with the characters from 0x80 on; U+FFFD stands
  for none.  The flag tells whether the names take the wider class. -/
  | table (upper : List Char) (names : NameClass)
  deriving Repr, DecidableEq, Inhabited

/-- The number of octets of the smallest unit. -/
def Form.width : Form → Nat
  | .utf16 _ => 2
  | _ => 1

/-- Which characters names may use. -/
def Form.names : Form → NameClass
  | .utf8 => .plain
  | .utf16 _ => .latin
  | .table _ k => k

/-- Whether a code point may stand in a document. -/
def isXmlChar (n : Nat) : Bool :=
  n == 0x09 || n == 0x0A || n == 0x0D || (0x20 ≤ n && n < 0xD800) ||
  (0xE000 ≤ n && n < 0xFFFE) || (0x10000 ≤ n && n < 0x110000)

/-- The glyph of a code point. -/
def glyphOf (n : Nat) : Glyph := if isXmlChar n then .char (Char.ofNat n) else .bad

/-- How many octets a character has whose first octet is given. -/
def utf8Width (a : UInt8) : Nat :=
  if a < 0xC0 then 1 else if a < 0xE0 then 2 else if a < 0xF0 then 3
  else if a < 0xF5 then 4 else 1

/-- The glyphs of octets in UTF-8; `fuel` is more than the number of octets. -/
def utf8Glyphs : (fuel : Nat) → Octets → Source
  | 0, _ => []
  | _ + 1, [] => []
  | n + 1, a :: r =>
    if r.length + 1 < utf8Width a then [.cut]
    else match Text.utf8Step a r with
      | .char c rest => glyphOf c.toNat :: utf8Glyphs n rest
      | _ => .bad :: utf8Glyphs n r

/-- The unit of UTF-16 that two octets give. -/
def utf16Unit (order : ByteOrder) (a b : UInt8) : Nat :=
  match order with
  | .little => b.toNat * 256 + a.toNat
  | .big => a.toNat * 256 + b.toNat

/-- The glyphs of octets in UTF-16 without a byte order mark. -/
def utf16Glyphs (order : ByteOrder) : Octets → Source
  | a :: b :: r =>
    let u := utf16Unit order a b
    if 0xD800 ≤ u ∧ u < 0xDC00 then
      match r with
      | c :: d :: r' =>
        let v := utf16Unit order c d
        (if 0xDC00 ≤ v ∧ v < 0xE000 then
          glyphOf (0x10000 + (u - 0xD800) * 0x400 + (v - 0xDC00))
        else .char '\ufffd') :: utf16Glyphs order r'
      | _ => [.cut]
    else glyphOf u :: utf16Glyphs order r
  | _ => []

/-- The glyph of an octet, with the characters from 0x80 on given. -/
def tableGlyph (upper : List Char) (a : UInt8) : Glyph :=
  if a < 0x80 then glyphOf a.toNat
  else match upper[a.toNat - 0x80]? with
    | some c => if c = '\ufffd' then .bad else glyphOf c.toNat
    | none => .bad

/-- The glyphs of octets. -/
def Form.read (f : Form) (bs : Octets) : Source :=
  match f with
  | .utf8 => utf8Glyphs (bs.length + 1) bs
  | .utf16 order => utf16Glyphs order bs
  | .table upper _ => bs.map (tableGlyph upper)

/-- How a document that names no character set starts: its form and the number of
octets of the byte order mark.  Nothing when a single octet leaves it open. -/
def Form.detect : Octets → Option (Form × Nat)
  | [] => some (.utf8, 0)
  | [a] => if a == 0xFE || a == 0xFF || a == 0xEF || a == 0x00 || a == 0x3C then none
    else some (.utf8, 0)
  | a :: b :: r =>
    if a == 0xFE && b == 0xFF then some (.utf16 .big, 2)
    else if a == 0xFF && b == 0xFE then some (.utf16 .little, 2)
    else if a == 0xEF && b == 0xBB then
      match r with
      | [] => none
      | c :: _ => if c == 0xBF then some (.utf8, 3) else some (.utf8, 0)
    else if a == 0x3C && b == 0x00 then some (.utf16 .little, 0)
    else if a == 0x00 then some (.utf16 .big, 0)
    else if b == 0x00 then some (.utf16 .little, 0)
    else some (.utf8, 0)

/-! ## Characters and blanks -/

/-- Whether a character may stand between the parts of markup. -/
def isSpace (c : Char) : Bool := c == ' ' || c == '\t' || c == '\n' || c == '\r'

/-- Whether a glyph may stand between the parts of markup. -/
def Glyph.isSpace : Glyph → Bool
  | .char c => Xml.isSpace c
  | _ => false

/-- The character of a glyph; U+FFFD where there is none. -/
def Glyph.toChar : Glyph → Char
  | .char c => c
  | _ => '\ufffd'

/-- The glyphs of characters. -/
def glyphs (cs : List Char) : Source := cs.map .char

/-- The characters of glyphs. -/
def chars (gs : Source) : List Char := gs.map Glyph.toChar

@[simp]
theorem chars_glyphs (cs : List Char) : chars (glyphs cs) = cs := by
  simp [chars, glyphs, Function.comp_def, Glyph.toChar]

/-! ## Places -/

/-- The line and column after some glyphs, from a line and a column. -/
def placeAfter : (line column : Nat) → Source → Nat × Nat
  | line, column, [] => (line, column)
  | line, _, .char '\n' :: r => placeAfter (line + 1) 0 r
  | line, _, .char '\r' :: .char '\n' :: r => placeAfter (line + 1) 0 r
  | line, _, .char '\r' :: r => placeAfter (line + 1) 0 r
  | line, column, _ :: r => placeAfter line (column + 1) r

/-- The line and column of the place in `whole` where `left` glyphs are left, when
the first line starts at column `margin`. -/
def placeOf (margin : Nat) (whole : Source) (left : Nat) : Nat × Nat :=
  placeAfter 1 margin (whole.take (whole.length - left))

end ContractDrift.Xml
