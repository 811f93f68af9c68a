/-
Texts in the encodings that a declaration may name.

`Encoding.encode` writes a text in UTF-8, in UTF-16 behind a byte order mark, in ISO-8859-1 or in
US-ASCII, and `Encoding.form` is the form in which a reader takes the octets.  In this form it sees
the characters that were written (`read_encode`).
-/
import ContractDrift.Proofs.Text.Utf8
import ContractDrift.Proofs.Xml.Names
import ContractDrift.Xml.Document

namespace ContractDrift.Text

variable {c : Char}

/-- The two octets of a unit of UTF-16. -/
def unitOctets (order : ByteOrder) (u : Nat) : Octets :=
  match order with
  | .little => [UInt8.ofNat (u % 256), UInt8.ofNat (u / 256)]
  | .big => [UInt8.ofNat (u / 256), UInt8.ofNat (u % 256)]

/-- The octets of one character in UTF-16: a unit, or two surrogates. -/
def utf16Char (order : ByteOrder) (c : Char) : Octets :=
  let n := c.toNat
  if n < 0x10000 then unitOctets order n
  else unitOctets order (0xD800 + (n - 0x10000) / 0x400) ++
    unitOctets order (0xDC00 + (n - 0x10000) % 0x400)

theorem utf8Char_ascii (h : c.toNat < 0x80) : utf8Char c = [UInt8.ofNat c.toNat] := by
  rw [utf8Char, if_pos h]

/-- Every other character has several octets. -/
theorem length_utf8Char (h : ¬ c.toNat < 0x80) : 1 < (utf8Char c).length := by
  rw [utf8Char, if_neg h]
  split
  · simp
  · split <;> simp

end ContractDrift.Text

namespace ContractDrift.Xml

open ContractDrift.Text (Octets ByteOrder utf8Char utf8Chars utf16Char unitOctets toNat_octet)

/-- The encodings of a text that a declaration may name, without those that leave out the byte
order mark of UTF-16. -/
inductive Encoding where
  | utf8
  | utf16 (order : ByteOrder)
  | latin1
  | ascii
  deriving Repr, DecidableEq

namespace Encoding

/-- The name in lower case. -/
def name : Encoding → List Char
  | .utf8 => "utf-8".toList
  | .utf16 _ => "utf-16".toList
  | .latin1 => "iso-8859-1".toList
  | .ascii => "us-ascii".toList

/-- How many code points the encoding has octets for. -/
def size : Encoding → Nat
  | .utf8 => 0x110000
  | .utf16 _ => 0x110000
  | .latin1 => 0x100
  | .ascii => 0x80

/-- Whether a text can be written in an encoding. -/
def Covers (e : Encoding) (cs : List Char) : Prop := ∀ c ∈ cs, c.toNat < e.size

instance (e : Encoding) (cs : List Char) : Decidable (e.Covers cs) :=
  List.decidableBAll (fun c : Char => c.toNat < e.size) cs

/-- The byte order mark. -/
def mark : Encoding → Octets
  | .utf16 .little => [0xFF, 0xFE]
  | .utf16 .big => [0xFE, 0xFF]
  | _ => []

/-- The octets of a character that the encoding covers. -/
def encodeChar : Encoding → Char → Octets
  | .utf8, c => utf8Char c
  | .utf16 order, c => utf16Char order c
  | .latin1, c => [UInt8.ofNat c.toNat]
  | .ascii, c => [UInt8.ofNat c.toNat]

/-- The octets of a text that the encoding covers. -/
def encode (e : Encoding) (cs : List Char) : Octets := e.mark ++ cs.flatMap e.encodeChar

/-- The form in which the octets behind the mark are read. -/
def form : Encoding → Form
  | .utf8 => .utf8
  | .utf16 order => .utf16 order
  | .latin1 => .table Text.firstCodePoints .latin
  | .ascii => .table Text.asciiOnly .plain

/-- The form that a reader finds at the start, before it knows the name of the encoding. -/
def startForm : Encoding → Form
  | .utf16 order => .utf16 order
  | _ => .utf8

end Encoding

/-! ## Units of UTF-16 -/

/-- A unit is read back from its two octets. -/
theorem exists_unitOctets (order : ByteOrder) {u : Nat} (hu : u < 0x10000) :
    ∃ a b, unitOctets order u = [a, b] ∧ utf16Unit order a b = u := by
  have hlow := toNat_octet (m := u % 256) (by omega)
  have hhigh := toNat_octet (m := u / 256) (by omega)
  cases order with
  | little =>
    refine ⟨_, _, rfl, ?_⟩
    simp only [utf16Unit, hlow, hhigh]
    omega
  | big =>
    refine ⟨_, _, rfl, ?_⟩
    simp only [utf16Unit, hlow, hhigh]
    omega

/-- A character is read back from its units, and what follows is left. -/
theorem utf16Glyphs_utf16Char (order : ByteOrder) (c : Char) (r : Octets) :
    utf16Glyphs order (utf16Char order c ++ r) = glyphOf c.toNat :: utf16Glyphs order r := by
  have hrange := Text.toNat_range c
  simp only [utf16Char]
  generalize c.toNat = n at hrange
  by_cases hunit : n < 0x10000
  · obtain ⟨a, b, hoctets, hvalue⟩ := exists_unitOctets order hunit
    have hsurrogate : ¬ (0xD800 ≤ n ∧ n < 0xDC00) := by omega
    rw [if_pos hunit, hoctets, List.cons_append, List.cons_append, List.nil_append,
      utf16Glyphs.eq_def]
    simp only [hvalue, if_neg hsurrogate]
  · -- the two surrogates carry ten bits each
    obtain ⟨a, b, hhigh, hhighValue⟩ :=
      exists_unitOctets order (u := 0xD800 + (n - 0x10000) / 0x400) (by omega)
    obtain ⟨a', b', hlow, hlowValue⟩ :=
      exists_unitOctets order (u := 0xDC00 + (n - 0x10000) % 0x400) (by omega)
    have hfirst : 0xD800 ≤ 0xD800 + (n - 0x10000) / 0x400 ∧
        0xD800 + (n - 0x10000) / 0x400 < 0xDC00 := by omega
    have hsecond : 0xDC00 ≤ 0xDC00 + (n - 0x10000) % 0x400 ∧
        0xDC00 + (n - 0x10000) % 0x400 < 0xE000 := by omega
    have hsum : 0x10000 + (0xD800 + (n - 0x10000) / 0x400 - 0xD800) * 0x400 +
        (0xDC00 + (n - 0x10000) % 0x400 - 0xDC00) = n := by omega
    simp only [if_neg hunit, hhigh, hlow, List.cons_append, List.nil_append, utf16Glyphs,
      hhighValue, hlowValue, if_pos hfirst, if_pos hsecond, hsum]

theorem utf16Glyphs_append (order : ByteOrder) (cs : List Char) (r : Octets) :
    utf16Glyphs order (cs.flatMap (utf16Char order) ++ r) =
      (cs.map fun c => glyphOf c.toNat) ++ utf16Glyphs order r := by
  induction cs with
  | nil => rfl
  | cons c cs ih =>
    rw [List.flatMap_cons, List.append_assoc, utf16Glyphs_utf16Char, ih, List.map_cons,
      List.cons_append]

/-! ## Octets of a table -/

theorem toNat_ofNat_of_lt {n : Nat} (h : n < 0x100) : (Char.ofNat n).toNat = n := by
  rw [Char.ofNat, dif_pos (.inl (by omega))]
  rfl

theorem tableGlyph_of_lt (upper : List Char) {n : Nat} (h : n < 0x80) :
    tableGlyph upper (UInt8.ofNat n) = glyphOf n := by
  have hlow : UInt8.ofNat n < 0x80 := (Text.octet_lt (by omega) rfl).mpr h
  rw [tableGlyph, if_pos hlow, toNat_octet (by omega)]

/-- The octets of ISO-8859-1 are the first code points. -/
theorem tableGlyph_firstCodePoints (a : UInt8) :
    tableGlyph Text.firstCodePoints a = glyphOf a.toNat := by
  have hsmall : a.toNat < 0x100 := a.toNat_lt
  unfold tableGlyph
  split
  · rfl
  · rename_i hhigh
    have hlow : 0x80 ≤ a.toNat := by
      rw [UInt8.lt_iff_toNat_lt] at hhigh
      exact Nat.not_lt.mp hhigh
    have hindex : Text.firstCodePoints[a.toNat - 0x80]? = some (Char.ofNat a.toNat) := by
      rw [Text.firstCodePoints, List.getElem?_map, List.getElem?_range (by omega)]
      simp only [Option.map_some, Nat.add_sub_cancel' hlow]
    -- the replacement character marks what a table leaves out, and it is none of the first 256
    have hne : Char.ofNat a.toNat ≠ '\ufffd' := by
      intro heq
      have := congrArg Char.toNat heq
      rw [toNat_ofNat_of_lt hsmall] at this
      have : a.toNat = 0xFFFD := this
      omega
    simp only [hindex, if_neg hne, toNat_ofNat_of_lt hsmall]

/-! ## Reading what was written -/

namespace Encoding

variable {e : Encoding} {cs : List Char}

theorem Covers.of_append_right {a b : List Char} (h : e.Covers (a ++ b)) : e.Covers b :=
  fun c hc => h c (List.mem_append_right a hc)

/-- In the form of an encoding a reader sees what was written in it. -/
theorem read_encode (h : e.Covers cs) :
    e.form.read (cs.flatMap e.encodeChar) = cs.map fun c => glyphOf c.toNat := by
  -- the encodings with a table are read octet by octet
  have htable {upper : List Char} (hglyph : ∀ c ∈ cs, tableGlyph upper (UInt8.ofNat c.toNat) =
      glyphOf c.toNat) :
      (cs.flatMap fun c => [UInt8.ofNat c.toNat]).map (tableGlyph upper) =
        cs.map fun c => glyphOf c.toNat := by
    rw [← List.map_eq_flatMap, List.map_map]
    exact List.map_congr_left hglyph
  cases e with
  | utf8 => exact utf8Glyphs_utf8Chars cs (Nat.lt_succ_self _)
  | utf16 order =>
    have happend := utf16Glyphs_append order cs []
    rw [List.append_nil] at happend
    rw [form, Form.read, ← List.append_nil (cs.map _)]
    exact happend
  | latin1 =>
    refine htable fun c hc => ?_
    have hc : c.toNat < 0x100 := h c hc
    rw [tableGlyph_firstCodePoints, toNat_octet hc]
  | ascii => exact htable fun c hc => tableGlyph_of_lt _ (h c hc)

/-- All encodings but UTF-16 write ASCII characters alike. -/
theorem flatMap_encodeChar_ascii (he : e.startForm = .utf8) (h : Encoding.ascii.Covers cs) :
    cs.flatMap e.encodeChar = utf8Chars cs := by
  have hchar : ∀ c ∈ cs, e.encodeChar c = utf8Char c := by
    intro c hc
    have hone : utf8Char c = [UInt8.ofNat c.toNat] := Text.utf8Char_ascii (h c hc)
    cases e with
    | utf8 => rfl
    | utf16 order => cases he
    | latin1 => exact hone.symm
    | ascii => exact hone.symm
  rw [utf8Chars, List.flatMap_def, List.map_congr_left hchar, ← List.flatMap_def]

end Encoding

/-! ## The number of octets in UTF-8 -/

variable {s : List Char}

theorem length_utf8Chars_cons (c : Char) (s : List Char) :
    (utf8Chars (c :: s)).length = (utf8Char c).length + (utf8Chars s).length := by
  rw [utf8Chars, List.flatMap_cons, List.length_append]
  rfl

theorem length_le_length_utf8Chars (s : List Char) : s.length ≤ (utf8Chars s).length := by
  induction s with
  | nil => exact Nat.le_refl 0
  | cons c s ih =>
    have hchar : 1 ≤ (utf8Char c).length := by
      by_cases hc : c.toNat < 0x80
      · rw [Text.utf8Char_ascii hc]
        exact Nat.le_refl 1
      · exact Nat.le_of_lt (Text.length_utf8Char hc)
    rw [length_utf8Chars_cons, List.length_cons]
    omega

theorem length_utf8Chars_eq_iff :
    (utf8Chars s).length = s.length ↔ Encoding.ascii.Covers s := by
  induction s with
  | nil => exact iff_of_true rfl fun c hc => absurd hc List.not_mem_nil
  | cons c s ih =>
    have hrest := length_le_length_utf8Chars s
    have hcovers : Encoding.ascii.Covers (c :: s) ↔
        c.toNat < 0x80 ∧ Encoding.ascii.Covers s := List.forall_mem_cons
    rw [length_utf8Chars_cons, hcovers, List.length_cons]
    by_cases hc : c.toNat < 0x80
    · rw [Text.utf8Char_ascii hc, List.length_singleton, and_iff_right hc]
      refine Iff.trans ?_ ih
      omega
    · have hseveral := Text.length_utf8Char hc
      refine iff_of_false (by omega) fun h => hc h.1

end ContractDrift.Xml
