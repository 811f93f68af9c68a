/-
Documents that declare the encoding in which they are written.

A reader takes a document in the form that its first octets show.  Where it meets a declaration
it takes on the form of the named encoding, and reads what stands behind the declaration again
(`SeenAs`).  So a text that is written in the encoding that it declares is seen as it is
(`seenAs_encode`), and one that is written in UTF-8 and declares ISO-8859-1 as what its octets are
there (`seenAs_misread`).  A declaration that names a form of other units is refused
(`StartsWith.parse_eq_incorrectEncoding`).
-/
import ContractDrift.Proofs.Xml.CharacterSet
import ContractDrift.Proofs.Xml.Declaration
import ContractDrift.Proofs.Xml.Encoding

namespace ContractDrift.Xml

open ContractDrift.Text (Octets ByteOrder utf8Char utf8Chars utf16Char)

/-- Characters are a declaration that names a character set. -/
def IsDeclarationOf (name written : List Char) : Prop :=
  ∃ text declaration place, written = "<?xml".toList ++ text ++ "?>".toList ∧
    Declaration.parse (glyphs text) = .ok declaration ∧
      declaration.encoding = some (name, place)

/-- A text carries a declaration that names a character set; a byte order mark may stand in front
of it. -/
def TextDeclares (s name : List Char) : Prop :=
  ∃ mark written rest, (mark = [] ∨ mark = ['\ufeff']) ∧ IsDeclarationOf name written ∧
    s = mark ++ written ++ rest

/-- What a reader sees of a document that starts with a declaration: the declaration in the form
that the first octets show, and behind it what is read in the form that it names. -/
def SeenAs (octets : Octets) (gs : Source) : Prop :=
  ∃ form mark text after rest d behind, Form.detect octets = some (form, mark) ∧
    nextPrologToken form.names (form.read (octets.drop mark)) =
      .ok (some (.instruction .declaration text after, rest)) ∧
    Reading.declare ⟨octets, mark, form, form.read (octets.drop mark), Definitions.empty⟩
      text after rest = .ok (d, behind) ∧ d.whole = gs

/-- In the form that its first octets show a document starts with a declaration. -/
structure StartsWith (octets : Octets) (form : Form) (mark : Nat) (written : List Char)
    (r : Source) : Prop where
  detect_eq : Form.detect octets = some (form, mark)
  read_eq : form.read (octets.drop mark) = glyphs written ++ r

variable {octets : Octets} {name written : List Char} {form : Form} {mark : Nat} {r : Source}
  {e : Encoding}

/-! ## Declarations as they are written -/

theorem IsDeclarationOf.ascii (h : IsDeclarationOf name written) :
    ∀ c ∈ written, c.toNat < 0x80 ∧ isXmlChar c.toNat = true := by
  obtain ⟨text, _, _, rfl, hparse, -⟩ := h
  have hmarks : ("<?xml".toList ++ "?>".toList).all
      (fun c => decide (c.toNat < 0x80) && isXmlChar c.toNat) = true := by
    decide
  have hmark {c : Char} (hc : c ∈ "<?xml".toList ++ "?>".toList) :
      c.toNat < 0x80 ∧ isXmlChar c.toNat = true := by
    simpa using List.all_eq_true.mp hmarks c hc
  intro c hc
  rcases List.mem_append.mp hc with hc | hc
  · rcases List.mem_append.mp hc with hc | hc
    · exact hmark (List.mem_append_left _ hc)
    · obtain ⟨hsmall, hxml, -⟩ := isMarkFree_of_parse hparse c hc
      exact ⟨hsmall, hxml⟩
  · exact hmark (List.mem_append_right _ hc)

theorem IsDeclarationOf.covers (h : IsDeclarationOf name written) :
    Encoding.ascii.Covers written :=
  fun c hc => (h.ascii c hc).1

theorem IsDeclarationOf.map_glyphOf (h : IsDeclarationOf name written) :
    (written.map fun c => glyphOf c.toNat) = glyphs written := by
  refine List.map_congr_left fun c hc => ?_
  rw [glyphOf, if_pos (h.ascii c hc).2, Char.ofNat_toNat]

theorem IsDeclarationOf.exists_eq_cons (h : IsDeclarationOf name written) :
    ∃ tail, written = '<' :: '?' :: tail := by
  obtain ⟨text, _, _, rfl, -⟩ := h
  exact ⟨_, rfl⟩

/-! ## The start of a document -/

/-- A text in UTF-8 starts with its declaration, behind the mark if there is one. -/
theorem exists_startsWith_utf8Chars {lead : List Char} (hlead : lead = [] ∨ lead = ['\ufeff'])
    (h : IsDeclarationOf name written) (rest : List Char) :
    ∃ mark r, StartsWith (utf8Chars (lead ++ written ++ rest)) .utf8 mark written r := by
  have hread : Form.utf8.read (utf8Chars (written ++ rest)) =
      glyphs written ++ rest.map fun c => glyphOf c.toNat := by
    rw [Form.read, utf8Glyphs_utf8Chars _ (Nat.lt_succ_self _), List.map_append, h.map_glyphOf]
  obtain ⟨tail, htail⟩ := h.exists_eq_cons
  rcases hlead with rfl | rfl
  · exact ⟨0, _, by rw [htail]; rfl, hread⟩
  · exact ⟨3, _, rfl, hread⟩

/-- A document in an encoding starts with its declaration, whatever octets stand behind it. -/
theorem exists_startsWith_encodeChar (e : Encoding) (h : IsDeclarationOf name written)
    (q : Octets) :
    ∃ r, StartsWith (e.mark ++ (written.flatMap e.encodeChar ++ q)) e.startForm e.mark.length
      written r := by
  obtain ⟨tail, htail⟩ := h.exists_eq_cons
  -- the declaration is ASCII, and there the encodings of one octet agree with UTF-8
  have hutf8 (he : e.startForm = .utf8) (hmark : e.mark = []) :
      ∃ r, StartsWith (e.mark ++ (written.flatMap e.encodeChar ++ q)) e.startForm e.mark.length
        written r := by
    have hfuel : (utf8Chars written).length < (utf8Chars written ++ q).length + 1 := by
      rw [List.length_append]
      omega
    obtain ⟨n, hn⟩ := utf8Glyphs_append written q hfuel
    rw [he, hmark, Encoding.flatMap_encodeChar_ascii he h.covers]
    refine ⟨utf8Glyphs n q, ?_, ?_⟩
    · rw [htail]
      rfl
    · rw [← h.map_glyphOf]
      exact hn
  cases e with
  | utf8 => exact hutf8 rfl rfl
  | latin1 => exact hutf8 rfl rfl
  | ascii => exact hutf8 rfl rfl
  | utf16 order =>
    have hread : (Form.utf16 order).read (written.flatMap (utf16Char order) ++ q) =
        glyphs written ++ utf16Glyphs order q := by
      rw [Form.read, utf16Glyphs_append, h.map_glyphOf]
    cases order with
    | little => exact ⟨_, rfl, hread⟩
    | big => exact ⟨_, rfl, hread⟩

namespace StartsWith

theorem nextPrologToken_eq (hstarts : StartsWith octets form mark written r)
    (h : IsDeclarationOf name written) :
    ∃ text after declaration place,
      nextPrologToken form.names (form.read (octets.drop mark)) =
        .ok (some (.instruction .declaration text after, r)) ∧
      Declaration.parse text = .ok declaration ∧ declaration.encoding = some (name, place) := by
  obtain ⟨text, declaration, place, rfl, hparse, hencoding⟩ := h
  obtain ⟨after, htoken⟩ := nextPrologToken_declaration (k := form.names) hparse r
  rw [hstarts.read_eq]
  exact ⟨_, after, declaration, place, htoken, hparse, hencoding⟩

theorem declares (hstarts : StartsWith octets form mark written r)
    (h : IsDeclarationOf name written) : Declares octets name := by
  obtain ⟨text, after, declaration, place, htoken, hparse, hencoding⟩ :=
    hstarts.nextPrologToken_eq h
  exact ⟨form, mark, text, after, r, declaration, place, hstarts.detect_eq, htoken, hparse,
    hencoding⟩

/-- The form that the declaration names is taken on for what stands behind it. -/
theorem seenAs (hstarts : StartsWith octets form mark written r)
    (h : IsDeclarationOf name written) {f : Form} (hform : form.redirect name = .form f) :
    SeenAs octets
      (glyphs written ++ f.read (octets.drop (mark + form.width * written.length))) := by
  obtain ⟨text, after, declaration, place, htoken, hparse, hencoding⟩ :=
    hstarts.nextPrologToken_eq h
  -- what has been read of the declaration tells how many octets the new form skips
  have hconsumed : (form.read (octets.drop mark)).length - r.length = written.length := by
    rw [hstarts.read_eq, List.length_append, length_glyphs]
    omega
  have htake : (form.read (octets.drop mark)).take written.length = glyphs written := by
    rw [hstarts.read_eq, ← length_glyphs written, List.take_left]
  have hdeclare : ∃ d behind, Reading.declare
      ⟨octets, mark, form, form.read (octets.drop mark), Definitions.empty⟩ text after r =
        .ok (d, behind) ∧
      d.whole = glyphs written ++ f.read (octets.drop (mark + form.width * written.length)) := by
    simp only [Reading.declare, hparse, hencoding, hform, hconsumed, htake]
    exact ⟨_, _, rfl, rfl⟩
  obtain ⟨d, behind, hdeclare, hwhole⟩ := hdeclare
  exact ⟨form, mark, text, after, r, d, behind, hstarts.detect_eq, htoken, hdeclare, hwhole⟩

/-- A declaration that names a form of other units is refused. -/
theorem parse_eq_incorrectEncoding (hstarts : StartsWith octets form mark written r)
    (h : IsDeclarationOf name written) (hform : form.redirect name = .fault .incorrectEncoding) :
    ∃ line column,
      Node.parse octets = .error (.unreadable (.malformed .incorrectEncoding line column)) := by
  have hdeclares := hstarts.declares h
  -- a document with a declaration is not empty
  have hblank : ¬ octets.all Text.isBlankOctet = true :=
    fun hblank => not_declares_of_blank hblank name hdeclares
  obtain ⟨text, after, declaration, place, htoken, hparse, hencoding⟩ :=
    hstarts.nextPrologToken_eq h
  have hread : ∃ line column,
      Document.read octets = .error (.malformed .incorrectEncoding line column) := by
    rw [Document.read, hstarts.detect_eq]
    simp only [Reading.finish, readStart, htoken, Reading.declare, hparse, hencoding, hform, bind,
      Except.bind]
    exact ⟨_, _, rfl⟩
  obtain ⟨line, column, hread⟩ := hread
  refine ⟨line, column, ?_⟩
  rw [Node.parse, if_neg hblank, hread]

end StartsWith

/-! ## The form that a name stands for -/

theorem named?_eq_form (he : e.startForm = .utf8) (h : name.map Char.toLower = e.name) :
    Form.named? name = some e.form := by
  rw [Form.named?, h]
  cases e with
  | utf16 order => cases he
  | utf8 | latin1 | ascii => rfl

theorem named?_utf16 (h : name.map Char.toLower = "utf-16".toList) :
    Form.named? name = some (.utf16 .big) := by
  rw [Form.named?, h]
  rfl

theorem named?_ne_none (h : name.map Char.toLower = e.name) : Form.named? name ≠ none := by
  cases e with
  | utf16 order =>
    rw [named?_utf16 h]
    exact Option.some_ne_none _
  | utf8 | latin1 | ascii =>
    rw [named?_eq_form rfl h]
    exact Option.some_ne_none _

/-- A document in an encoding takes on its form when it names it. -/
theorem redirect_startForm (h : name.map Char.toLower = e.name) :
    e.startForm.redirect name = .form e.form := by
  cases e with
  | utf16 order => exact if_pos ⟨rfl, h⟩
  | utf8 | latin1 | ascii =>
    rw [Form.redirect, if_neg (fun htwo => absurd htwo.1 (by decide)), named?_eq_form rfl h]
    rfl

/-- A document in UTF-8 does not take on the form with units of two octets. -/
theorem redirect_utf16 (h : name.map Char.toLower = "utf-16".toList) :
    Form.utf8.redirect name = .fault .incorrectEncoding := by
  rw [Form.redirect, if_neg (fun htwo => absurd htwo.1 (by decide)), named?_utf16 h]
  rfl

/-! ## Texts in the encoding that they declare -/

theorem length_flatMap_encodeChar (h : Encoding.ascii.Covers written) :
    (written.flatMap e.encodeChar).length = e.startForm.width * written.length := by
  -- each character of ASCII is one unit in every encoding
  have hchar : ∀ c ∈ written, (e.encodeChar c).length = e.startForm.width := by
    intro c hc
    have hsmall : c.toNat < 0x80 := h c hc
    cases e with
    | utf8 => rw [Encoding.encodeChar, Text.utf8Char_ascii hsmall]; rfl
    | latin1 => rfl
    | ascii => rfl
    | utf16 order =>
      have hunit : c.toNat < 0x10000 := by omega
      rw [Encoding.encodeChar, utf16Char, if_pos hunit]
      cases order <;> rfl
  induction written with
  | nil => rfl
  | cons c cs ih =>
    rw [List.flatMap_cons, List.length_append, hchar c List.mem_cons_self, List.length_cons,
      ih (fun x hx => h x (List.mem_cons_of_mem c hx)) fun x hx =>
        hchar x (List.mem_cons_of_mem c hx), Nat.mul_succ, Nat.add_comm]

/-- Behind a declaration of their encoding octets are read in it. -/
theorem seenAs_of_isDeclarationOf (h : IsDeclarationOf name written)
    (hname : name.map Char.toLower = e.name) (q : Octets) :
    SeenAs (e.mark ++ (written.flatMap e.encodeChar ++ q)) (glyphs written ++ e.form.read q) := by
  obtain ⟨r, hstarts⟩ := exists_startsWith_encodeChar e h q
  have hseen := hstarts.seenAs h (redirect_startForm hname)
  rwa [← length_flatMap_encodeChar h.covers, ← List.drop_drop, List.drop_left,
    List.drop_left] at hseen

/-- A text that is written in the encoding that it declares is seen as it is. -/
theorem seenAs_encode (h : IsDeclarationOf name written) {rest : List Char}
    (hname : name.map Char.toLower = e.name) (hcovers : e.Covers rest) :
    SeenAs (e.encode (written ++ rest)) ((written ++ rest).map fun c => glyphOf c.toNat) := by
  rw [Encoding.encode, List.flatMap_append, List.map_append, h.map_glyphOf,
    ← Encoding.read_encode hcovers]
  exact seenAs_of_isDeclarationOf h hname _

/-! ## Texts in UTF-8 that declare ISO-8859-1 -/

/-- The text that the octets of a text in UTF-8 are in ISO-8859-1. -/
def misread (s : List Char) : List Char := (utf8Chars s).map fun a => Char.ofNat a.toNat

theorem toNat_ofNat_octet (a : UInt8) : (Char.ofNat a.toNat).toNat = a.toNat :=
  toNat_ofNat_of_lt a.toNat_lt

theorem encode_misread (s : List Char) : Encoding.latin1.encode (misread s) = utf8Chars s := by
  have hoctet (a : UInt8) : UInt8.ofNat (Char.ofNat a.toNat).toNat = a := by
    rw [toNat_ofNat_octet, UInt8.ofNat_toNat]
  show (misread s).flatMap (fun c => [UInt8.ofNat c.toNat]) = utf8Chars s
  rw [← List.map_eq_flatMap, misread, List.map_map]
  exact (List.map_congr_left fun a _ => hoctet a).trans (List.map_id _)

/-- ASCII texts, and no others, are the same in UTF-8 and in ISO-8859-1. -/
theorem misread_eq_self_iff {s : List Char} : misread s = s ↔ Encoding.ascii.Covers s := by
  constructor
  · intro h
    have hlength := congrArg List.length h
    rwa [misread, List.length_map, length_utf8Chars_eq_iff] at hlength
  · intro h
    have hoctets : utf8Chars s = s.map fun c => UInt8.ofNat c.toNat := by
      rw [← Encoding.flatMap_encodeChar_ascii (e := .latin1) rfl h, List.map_eq_flatMap]
      rfl
    have hchar : ∀ c ∈ s, Char.ofNat (UInt8.ofNat c.toNat).toNat = c := by
      intro c hc
      have hsmall : c.toNat < 0x80 := h c hc
      rw [Text.toNat_octet (by omega), Char.ofNat_toNat]
    rw [misread, hoctets, List.map_map]
    exact (List.map_congr_left hchar).trans (List.map_id _)

theorem misread_append (a b : List Char) : misread (a ++ b) = misread a ++ misread b := by
  rw [misread, Text.utf8Chars_append, List.map_append]
  rfl

theorem covers_misread (s : List Char) : Encoding.latin1.Covers (misread s) := by
  intro c hc
  obtain ⟨a, -, rfl⟩ := List.mem_map.mp hc
  rw [toNat_ofNat_octet]
  exact a.toNat_lt

/-- A text that declares ISO-8859-1 is seen as what its octets in UTF-8 are there. -/
theorem seenAs_misread (h : IsDeclarationOf name written)
    (hname : name.map Char.toLower = Encoding.latin1.name) (rest : List Char) :
    SeenAs (utf8Chars (written ++ rest))
      ((misread (written ++ rest)).map fun c => glyphOf c.toNat) := by
  have hwritten : misread written = written := misread_eq_self_iff.mpr h.covers
  rw [← encode_misread, misread_append, hwritten]
  exact seenAs_encode h hname (covers_misread rest)

/-! ## Refusals of documents that declare a known encoding -/

theorem Declares.unique {name' : List Char} (h : Declares octets name)
    (h' : Declares octets name') : name = name' := by
  obtain ⟨form, mark, text, after, rest, declaration, place, hdetect, htoken, hparse,
    hencoding⟩ := h
  obtain ⟨_, _, _, _, _, _, _, hdetect', htoken', hparse', hencoding'⟩ := h'
  rw [hdetect] at hdetect'
  cases hdetect'
  rw [htoken] at htoken'
  cases htoken'
  rw [hparse] at hparse'
  cases hparse'
  rw [hencoding] at hencoding'
  cases hencoding'
  rfl

/-- A document that declares one of the forms, or nothing, is refused for what it says only. -/
theorem isOfContent_of_parse {error : DocumentError}
    (h : ∀ name, Declares octets name → Form.named? name ≠ none)
    (hparse : Node.parse octets = .error error) : error.isOfContent = true := by
  cases hcontent : error.isOfContent with
  | true => rfl
  | false =>
    obtain ⟨name, e', hdeclares, hset, -⟩ := (parse_eq_error_iff hcontent).mp hparse
    cases hset with
    | unknown hnone | notText hnone | multiByte hnone => exact absurd hnone (h name hdeclares)

/-- Behind the mark of UTF-16 another mark is no start of a declaration. -/
theorem not_declares_of_marked (order : ByteOrder) (cs name : List Char) :
    ¬ Declares ((Encoding.utf16 order).encode ('\ufeff' :: cs)) name := by
  rintro ⟨form, mark, text, after, rest, _, _, hdetect, htoken, -⟩
  have hstart : Form.detect ((Encoding.utf16 order).encode ('\ufeff' :: cs)) =
      some (.utf16 order, 2) := by
    cases order <;> rfl
  have hread : (Form.utf16 order).read
      (((Encoding.utf16 order).encode ('\ufeff' :: cs)).drop 2) =
        .char '\ufeff' :: utf16Glyphs order (cs.flatMap (utf16Char order)) := by
    have hglyph := utf16Glyphs_utf16Char order '\ufeff' (cs.flatMap (utf16Char order))
    cases order <;> exact hglyph
  rw [hstart] at hdetect
  cases hdetect
  rw [hread] at htoken
  cases htoken

end ContractDrift.Xml
