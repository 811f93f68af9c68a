/-
Documents given as text and as octets.

A text is read by its octets in UTF-8, whatever its declaration names.  So the answers for a text
are those for its octets in the encoding that it declares where these are the same octets:
in UTF-8 and US-ASCII, and in ISO-8859-1 as long as all characters are ASCII characters.  Any
other text that declares ISO-8859-1 is read as the text that its octets in UTF-8 are there
(`misread`), and one that declares UTF-16 is refused.
-/
import ContractDrift.Proofs.Soap.Verdict
import ContractDrift.Proofs.Xml.DeclaredEncoding

namespace ContractDrift.Soap

open ContractDrift.Text (Octets utf8Chars)
open ContractDrift.Wsdl (Direction Model)
open ContractDrift.Xml (DocumentError Encoding Given IsDeclarationOf Node SeenAs TextDeclares
  glyphOf misread)

/-! ## The same answers -/

/-- Two readings come to the same: they give one value, or both documents are refused for what
they say. -/
inductive Agree {α : Type} : Except DocumentError α → Except DocumentError α → Prop
  | value (x : α) : Agree (.ok x) (.ok x)
  | refused {error error' : DocumentError} : error.isOfContent = true →
      error'.isOfContent = true → Agree (.error error) (.error error')

theorem Agree.eq_of_map {α β : Type} {result result' : Except DocumentError α}
    (h : Agree result result') {f : α → β} {x y : β} (hx : result.map f = .ok x)
    (hy : result'.map f = .ok y) : x = y := by
  cases h with
  | value z => exact Except.ok.inj (hx.symm.trans hy)
  | refused _ _ => cases hx

/-- Two ways to give a document come to the same: in its tree, in its model, and in the outcome of
every check of it as an envelope. -/
structure SameAnswers (given given' : Given) : Prop where
  parse : Agree (Node.parse given.toOctets) (Node.parse given'.toOctets)
  load : Agree (Model.load given.toOctets) (Model.load given'.toOctets)
  validate_eq : ∀ (m : Model) (strict : Bool) (name : String) (direction : Json.Value),
    validate m strict given.toOctets name direction =
      validate m strict given'.toOctets name direction

variable {given given' : Given} {octets : Octets}

/-- The tree of a document decides the other answers. -/
theorem sameAnswers_iff :
    SameAnswers given given' ↔ Agree (Node.parse given.toOctets) (Node.parse given'.toOctets) := by
  refine ⟨SameAnswers.parse, fun h => ⟨h, ?_, ?_⟩⟩
  · rw [Model.load, Model.load]
    generalize Node.parse given.toOctets = result, Node.parse given'.toOctets = result' at h
    cases h with
    | value root => exact .value _
    | refused he he' => exact .refused he he'
  -- a check asks of the document only what the search for its body does
  · have hbody : findBody given.toOctets = findBody given'.toOctets := by
      generalize hparse : Node.parse given.toOctets = result,
        hparse' : Node.parse given'.toOctets = result' at h
      cases h with
      | value root => rw [findBody, findBody, hparse, hparse']
      | refused he he' => rw [findBody_of_error hparse he, findBody_of_error hparse' he']
    intro m strict name direction
    simp only [validate, validateIn, hbody]

theorem sameAnswers_of_toOctets_eq (h : given.toOctets = given'.toOctets)
    (hreadable : IsReadable given.toOctets) : SameAnswers given given' := by
  rw [sameAnswers_iff, ← h]
  cases hparse : Node.parse given.toOctets with
  | ok root => exact .value root
  | error error => exact .refused (hreadable error hparse) (hreadable error hparse)

/-- Two documents that are refused get the same answers, and with a refused document no other
does. -/
theorem sameAnswers_iff_of_error (hreadable : IsReadable given.toOctets)
    (hreadable' : IsReadable given'.toOctets)
    (h : ∃ error, Node.parse given.toOctets = .error error) :
    SameAnswers given given' ↔ ∃ error, Node.parse given'.toOctets = .error error := by
  obtain ⟨error, hparse⟩ := h
  rw [sameAnswers_iff, hparse]
  constructor
  · intro hagree
    cases hparse' : Node.parse given'.toOctets with
    | ok root =>
      rw [hparse'] at hagree
      cases hagree
    | error error' => exact ⟨error', rfl⟩
  -- both refusals are for what the documents say, and these are one answer
  · rintro ⟨error', hparse'⟩
    rw [hparse']
    exact .refused (hreadable error hparse) (hreadable' error' hparse')

/-! ## A text and its octets in the encoding that it declares -/

/-- What the answers for a text are, compared with those for its octets in an encoding. -/
structure TextAgainstOctets (e : Encoding) (s : String) : Prop where
  /-- The text is refused for what it says only, -/
  readable_text : IsReadable (Given.text s).toOctets
  /-- and so are the octets. -/
  readable_octets : IsReadable (Given.octets (e.encode s.toList)).toOctets
  /-- In the octets a reader sees the text, unless a byte order mark stands in front of it. -/
  octets_seenAs : s.toList.head? = some '<' →
    SeenAs (Given.octets (e.encode s.toList)).toOctets (s.toList.map fun c => glyphOf c.toNat)
  /-- The answers are the same where the octets are those in UTF-8, -/
  sameAnswers : e = .utf8 ∨ e = .ascii ∨ e = .latin1 ∧ Encoding.ascii.Covers s.toList →
    SameAnswers (.text s) (.octets (e.encode s.toList))
  /-- in ISO-8859-1 the text is read as another one unless it consists of ASCII characters, -/
  latin1 : e = .latin1 → (misread s.toList = s.toList ↔ Encoding.ascii.Covers s.toList) ∧
    (Given.text s).toOctets = e.encode (misread s.toList) ∧
      SeenAs (Given.text s).toOctets ((misread s.toList).map fun c => glyphOf c.toNat)
  /-- and in UTF-16 the text is refused, whether or not the octets are. -/
  utf16 : ∀ order, e = .utf16 order →
    (∃ line column, Node.parse (Given.text s).toOctets =
      .error (.unreadable (.malformed .incorrectEncoding line column))) ∧
    (SameAnswers (.text s) (.octets (e.encode s.toList)) ↔
      ∃ error, Node.parse (e.encode s.toList) = .error error)

variable {e : Encoding} {s : String} {name : List Char}

theorem isReadable_of_declares (h : Xml.Declares octets name)
    (hname : name.map Char.toLower = e.name) : IsReadable octets := by
  intro error hparse
  refine Xml.isOfContent_of_parse (fun name' hdeclares => ?_) hparse
  rw [← h.unique hdeclares]
  exact Xml.named?_ne_none hname

/-- The octets of a text in UTF-8 are those in an encoding that has the same octets for all its
characters. -/
theorem toOctets_eq_encode (hcovers : e.Covers s.toList)
    (h : e = .utf8 ∨ e = .ascii ∨ e = .latin1 ∧ Encoding.ascii.Covers s.toList) :
    (Given.text s).toOctets = e.encode s.toList := by
  show utf8Chars s.toList = e.mark ++ s.toList.flatMap e.encodeChar
  rcases h with rfl | rfl | ⟨rfl, hascii⟩
  · rfl
  · exact (Encoding.flatMap_encodeChar_ascii rfl hcovers).symm
  · exact (Encoding.flatMap_encodeChar_ascii rfl hascii).symm

/-- A text with a byte order mark can be written in the encodings of Unicode only. -/
theorem not_covers_of_mark {e : Encoding} (he : e = .latin1 ∨ e = .ascii) (cs : List Char) :
    ¬ e.Covers ('\ufeff' :: cs) := by
  intro hcovers
  have hmark : ('\ufeff').toNat < e.size := hcovers _ List.mem_cons_self
  rcases he with rfl | rfl
  all_goals exact absurd hmark (by decide)

/-- The octets of a text in the encoding that it declares are refused for what they say only. -/
theorem isReadable_encode {lead written rest : List Char} (hlead : lead = [] ∨ lead = ['\ufeff'])
    (hwritten : IsDeclarationOf name written) (hname : name.map Char.toLower = e.name)
    (hcovers : e.Covers (lead ++ written ++ rest)) :
    IsReadable (e.encode (lead ++ written ++ rest)) := by
  rcases hlead with rfl | rfl
  · obtain ⟨r, hstarts⟩ := Xml.exists_startsWith_encodeChar e hwritten (rest.flatMap e.encodeChar)
    rw [← List.flatMap_append] at hstarts
    exact isReadable_of_declares (hstarts.declares hwritten) hname
  · -- a mark is kept by UTF-8, where it shows the form, and doubled by UTF-16
    cases e with
    | utf8 =>
      obtain ⟨mark, r, hstarts⟩ := Xml.exists_startsWith_utf8Chars (.inr rfl) hwritten rest
      exact isReadable_of_declares (hstarts.declares hwritten) hname
    | utf16 order =>
      intro error hparse
      refine Xml.isOfContent_of_parse (fun name' hdeclares => ?_) hparse
      exact absurd hdeclares (Xml.not_declares_of_marked order _ name')
    | latin1 => exact absurd hcovers (not_covers_of_mark (.inl rfl) _)
    | ascii => exact absurd hcovers (not_covers_of_mark (.inr rfl) _)

/-- What comes of a text that declares an encoding, compared with its octets in it. -/
theorem textAgainstOctets_of_textDeclares (hdeclares : TextDeclares s.toList name)
    (hname : name.map Char.toLower = e.name) (hcovers : e.Covers s.toList) :
    TextAgainstOctets e s := by
  obtain ⟨lead, written, rest, hlead, hwritten, hs⟩ := hdeclares
  have hunmarked (h : s.toList.head? ≠ some '\ufeff') : s.toList = written ++ rest := by
    rcases hlead with rfl | rfl
    · exact hs
    · rw [hs] at h
      exact absurd rfl h
  obtain ⟨mark, r, hstarts⟩ := Xml.exists_startsWith_utf8Chars hlead hwritten rest
  rw [← hs] at hstarts
  have htext : IsReadable (Given.text s).toOctets :=
    isReadable_of_declares (hstarts.declares hwritten) hname
  have hoctets : IsReadable (Given.octets (e.encode s.toList)).toOctets := by
    rw [hs] at hcovers ⊢
    exact isReadable_encode hlead hwritten hname hcovers
  refine ⟨htext, hoctets, fun hfirst => ?_, fun h => ?_, ?_, ?_⟩
  · have hplain := hunmarked (by rw [hfirst]; decide)
    rw [hplain] at hcovers ⊢
    exact Xml.seenAs_encode hwritten hname hcovers.of_append_right
  · exact sameAnswers_of_toOctets_eq (toOctets_eq_encode hcovers h) htext
  -- read as Latin-1, the octets of the text are another text, which is the same for ASCII only
  · rintro rfl
    have hplain : s.toList = written ++ rest := by
      refine hunmarked fun hfirst => ?_
      obtain ⟨cs, hcs⟩ := List.head?_eq_some_iff.mp hfirst
      rw [hcs] at hcovers
      exact not_covers_of_mark (.inl rfl) cs hcovers
    have hseen := Xml.seenAs_misread hwritten hname rest
    rw [← hplain] at hseen
    exact ⟨Xml.misread_eq_self_iff, (Xml.encode_misread s.toList).symm, hseen⟩
  -- a declaration that is read in octets cannot ask for units of two octets
  · rintro order rfl
    obtain ⟨line, column, hparse⟩ :=
      hstarts.parse_eq_incorrectEncoding hwritten (Xml.redirect_utf16 hname)
    exact ⟨⟨line, column, hparse⟩, sameAnswers_iff_of_error htext hoctets ⟨_, hparse⟩⟩

/-- A document with a character of two octets in UTF-8 and of one in the set that it declares. -/
def accented : String := "<?xml version='1.0' encoding='ISO-8859-1'?><a>é</a>"

theorem textDeclares_accented : TextDeclares accented.toList "ISO-8859-1".toList := by
  refine ⟨[], "<?xml version='1.0' encoding='ISO-8859-1'?>".toList, "<a>é</a>".toList, .inl rfl,
    ⟨" version='1.0' encoding='ISO-8859-1'".toList, ⟨some ("ISO-8859-1".toList, _), none⟩, _, ?_,
      rfl, rfl⟩, ?_⟩
  all_goals rfl

/-- As text this document has another content than in its octets. -/
theorem text_accented :
    (Node.parse (Given.text accented).toOctets).map Node.text = .ok "Ã©" ∧
      (Node.parse (Encoding.latin1.encode accented.toList)).map Node.text = .ok "é" := by
  rw [Given.toOctets, accented, Text.utf8_ofList]
  decide +kernel

theorem textAgainstOctets_accented :
    TextDeclares accented.toList "ISO-8859-1".toList ∧
      TextAgainstOctets .latin1 accented ∧
      ¬ SameAnswers (.text accented) (.octets (Encoding.latin1.encode accented.toList)) := by
  refine ⟨textDeclares_accented,
    textAgainstOctets_of_textDeclares textDeclares_accented (by decide) (by decide), fun h => ?_⟩
  obtain ⟨htext, hoctets⟩ := text_accented
  exact absurd (h.parse.eq_of_map htext hoctets) (by decide)

end ContractDrift.Soap
