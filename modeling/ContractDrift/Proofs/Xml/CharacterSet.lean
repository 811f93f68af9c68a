/-
Documents that cannot be read for their character set.

A document is refused for what it says, at a place, or because its declaration names a character
set that cannot be read: one that is not known, a transformation that gives no text, or a set
with characters of several octets (`IsUnreadableSet`).  Only the declaration can do the latter, so
`read_eq_error_iff` tells from the start of a document whether it is refused for its
characters; `parse_eq_error_iff` says the same of its tree.
-/
import ContractDrift.Proofs.Outcome
import ContractDrift.Proofs.Text.Utf8
import ContractDrift.Xml.Node

namespace ContractDrift.Xml

open ContractDrift.Text (Octets CharacterSet)

/-! ## Names of character sets -/

/-- Whether a document is refused for what it says, at a place. -/
def ReadError.isMalformed : ReadError → Bool
  | .malformed _ _ _ => true
  | _ => false

theorem isOfContent_unreadable (e : ReadError) :
    (DocumentError.unreadable e).isOfContent = e.isMalformed := by
  cases e <;> rfl

/-- A name is not that of a character set that can be read, and this is the refusal. -/
inductive IsUnreadableSet (name : List Char) : ReadError → Prop
  | unknown : Form.named? name = none → CharacterSet.named? (String.ofList name) = none →
      IsUnreadableSet name (.unknownCharacterSet (String.ofList name))
  | notText : Form.named? name = none →
      CharacterSet.named? (String.ofList name) = some .notText →
        IsUnreadableSet name (.notText (String.ofList name))
  | multiByte : Form.named? name = none →
      CharacterSet.named? (String.ofList name) = some .multiByte →
        IsUnreadableSet name .multiByteCharacterSet

/-- A document declares a character set: in the form that its start shows, it starts with a
declaration that is well-formed and names the set. -/
def Declares (octets : Octets) (name : List Char) : Prop :=
  ∃ form mark text after rest declaration place,
    Form.detect octets = some (form, mark) ∧
    nextPrologToken form.names (form.read (octets.drop mark)) =
      .ok (some (.instruction .declaration text after, rest)) ∧
    Declaration.parse text = .ok declaration ∧ declaration.encoding = some (name, place)

variable {octets : Octets} {name : List Char} {e : ReadError}

theorem IsUnreadableSet.isMalformed_eq_false (h : IsUnreadableSet name e) :
    e.isMalformed = false := by
  cases h <;> rfl

/-- A form never takes on the name of a set that cannot be read. -/
theorem redirect_eq_refused_iff {form : Form} :
    form.redirect name = .refused e ↔ IsUnreadableSet name e := by
  -- the name of the form with units of two octets is known, whatever the form is now
  have hsixteen (h : name.map Char.toLower = "utf-16".toList) : Form.named? name ≠ none := by
    simp [Form.named?, h]
  unfold Form.redirect
  split
  · rename_i htwo
    refine iff_of_false (by simp) fun h => ?_
    cases h with
    | unknown hnamed | notText hnamed | multiByte hnamed => exact hsixteen htwo.2 hnamed
  · split
    · rename_i f hnamed
      have hnot : ¬ IsUnreadableSet name e := by
        intro h
        cases h with
        | unknown hnone | notText hnone | multiByte hnone =>
          rw [hnamed] at hnone
          exact absurd hnone (Option.some_ne_none f)
      refine iff_of_false (fun h => ?_) hnot
      split at h
      · cases h
      · split at h <;> cases h
    · rename_i hnamed
      constructor
      · intro h
        simp only at h
        split at h
        · cases h
        · rename_i hset
          cases h
          exact .multiByte hnamed hset
        · cases h
        · rename_i hset
          cases h
          exact .notText hnamed hset
        · rename_i hset
          cases h
          exact .unknown hnamed hset
      · intro h
        cases h with
        | unknown _ hset | notText _ hset | multiByte _ hset => simp only [hset]

/-! ## Where a document is refused -/

theorem isMalformed_of_refuse {α : Type} {d : Reading} {f : Fault} {place : Source}
    (h : (.error (d.refuse f place) : Except ReadError α) = .error e) : e.isMalformed = true := by
  rw [← Except.error.inj h]
  rfl

/-- Behind its declaration a prolog is refused only for what it says. -/
theorem isMalformed_readProlog {n : Nat} {seen : Bool} {d : Reading} {gs : Source}
    (h : readProlog n seen d gs = .error e) : e.isMalformed = true := by
  induction n generalizing seen d gs with
  | zero => exact isMalformed_of_refuse h
  | succ n ih =>
    rw [readProlog] at h
    split at h
    · exact isMalformed_of_refuse h
    · exact isMalformed_of_refuse h
    · split at h
      -- blanks, comments and instructions are skipped
      · exact ih h
      · exact ih h
      · exact ih h
      · exact isMalformed_of_refuse h
      · cases h
      · exact isMalformed_of_refuse h
      · split at h
        · split at h
          · exact isMalformed_of_refuse h
          · exact ih h
        · exact isMalformed_of_refuse h
      · exact isMalformed_of_refuse h

/-- A declaration is refused for its characters exactly if it names a set that cannot be
read. -/
theorem declare_eq_error_iff {d : Reading} {text after rest : Source}
    (he : e.isMalformed = false) :
    d.declare text after rest = .error e ↔ ∃ declaration name place,
      Declaration.parse text = .ok declaration ∧ declaration.encoding = some (name, place) ∧
        IsUnreadableSet name e := by
  -- any other refusal of a declaration has a place
  have hrefused (d : Reading) (f : Fault) (place : Source) : d.refuse f place ≠ e := by
    rintro rfl
    cases he
  unfold Reading.declare
  cases hparse : Declaration.parse text with
  | error place => simp [hrefused]
  | ok declaration =>
    cases hencoding : declaration.encoding with
    | none => simp [hencoding]
    | some named =>
      obtain ⟨name, place⟩ := named
      have hiff : IsUnreadableSet name e ↔ d.form.redirect name = .refused e :=
        redirect_eq_refused_iff.symm
      cases hredirect : d.form.redirect name <;> simp_all

/-- A document is refused for its characters where it starts or not at all. -/
theorem finish_eq_error_iff {d : Reading} (he : e.isMalformed = false) :
    d.finish = .error e ↔ readStart d = .error e := by
  rw [Reading.finish, bind_eq_error_iff]
  refine or_iff_left ?_
  rintro ⟨⟨d', rest⟩, -, h⟩
  have hmalformed : e.isMalformed = true := by
    simp only at h
    split at h
    · split at h
      · exact isMalformed_of_refuse h
      · cases h
    · exact isMalformed_of_refuse h
  rw [he] at hmalformed
  cases hmalformed

theorem readStart_eq_error_iff {d : Reading} (he : e.isMalformed = false) :
    readStart d = .error e ↔ ∃ text after rest declaration name place,
      nextPrologToken d.form.names d.whole =
          .ok (some (.instruction .declaration text after, rest)) ∧
        Declaration.parse text = .ok declaration ∧ declaration.encoding = some (name, place) ∧
          IsUnreadableSet name e := by
  -- behind the declaration refusals are for what the document says
  have hprolog {n : Nat} {seen : Bool} {d : Reading} {gs : Source} :
      readProlog n seen d gs ≠ .error e := by
    intro h
    rw [isMalformed_readProlog h] at he
    cases he
  simp only [readStart]
  split
  · rename_i text after rest htoken
    rw [bind_eq_error_iff, declare_eq_error_iff he]
    constructor
    · rintro (⟨declaration, name, place, h⟩ | ⟨⟨d', rest'⟩, -, h⟩)
      · exact ⟨text, after, rest, declaration, name, place, htoken, h⟩
      · exact absurd h hprolog
    · rintro ⟨text', after', rest', declaration, name, place, htoken', h⟩
      rw [htoken] at htoken'
      cases htoken'
      exact .inl ⟨declaration, name, place, h⟩
  · rename_i hother
    refine iff_of_false hprolog ?_
    rintro ⟨text, after, rest, _, _, _, htoken, -⟩
    exact hother text after rest htoken

/-- A document is refused for its characters exactly if it declares a set that cannot be
read. -/
theorem read_eq_error_iff (he : e.isMalformed = false) :
    Document.read octets = .error e ↔ ∃ name, Declares octets name ∧ IsUnreadableSet name e := by
  unfold Document.read Declares
  cases hdetect : Form.detect octets with
  | none =>
    -- too little of a document to show its form is a fault at a place
    refine iff_of_false (fun h => ?_) ?_
    · rw [← Except.error.inj h] at he
      cases he
    · rintro ⟨_, ⟨_, _, _, _, _, _, _, h, -⟩, -⟩
      cases h
  | some start =>
    obtain ⟨form, mark⟩ := start
    rw [finish_eq_error_iff he, readStart_eq_error_iff he]
    constructor
    · rintro ⟨text, after, rest, declaration, name, place, htoken, hparse, hnames, hset⟩
      exact ⟨name, ⟨form, mark, text, after, rest, declaration, place, rfl, htoken, hparse,
        hnames⟩, hset⟩
    · rintro ⟨name, ⟨form', mark', text, after, rest, declaration, place, hstart, htoken, hparse,
        hnames⟩, hset⟩
      cases hstart
      exact ⟨text, after, rest, declaration, name, place, htoken, hparse, hnames, hset⟩

/-! ## Trees -/

/-- A document that starts with two blank octets, or is one, is read as text in octets. -/
theorem detect_blank {a : UInt8} {r : Octets} (h : (a :: r).all Text.isBlankOctet = true) :
    Form.detect (a :: r) = some (.utf8, 0) := by
  have hne {a b : UInt8} (ha : Text.isBlankOctet a = true) (hb : Text.isBlankOctet b = false) :
      (a == b) = false := by
    refine beq_false_of_ne fun heq => ?_
    rw [heq, hb] at ha
    cases ha
  rw [List.all_cons, Bool.and_eq_true] at h
  obtain ⟨ha, hr⟩ := h
  -- none of the octets that show another form is a blank
  have hfe := hne ha (b := 0xFE) rfl
  have hff := hne ha (b := 0xFF) rfl
  have hef := hne ha (b := 0xEF) rfl
  have hzero := hne ha (b := 0x00) rfl
  have hopen := hne ha (b := 0x3C) rfl
  cases r with
  | nil => simp [Form.detect, hfe, hff, hef, hzero, hopen]
  | cons b r =>
    rw [List.all_cons, Bool.and_eq_true] at hr
    have hzero' := hne hr.1 (b := 0x00) rfl
    simp [Form.detect, hfe, hff, hef, hzero, hopen, hzero']

/-- A blank octet is read by itself. -/
theorem utf8Glyphs_blank {a : UInt8} (h : Text.isBlankOctet a = true) (n : Nat) (r : Octets) :
    utf8Glyphs (n + 1) (a :: r) = glyphOf (Char.ofNat a.toNat).toNat :: utf8Glyphs n r := by
  have hrange : a.toNat = 0x20 ∨ 0x09 ≤ a.toNat ∧ a.toNat ≤ 0x0D := by
    simpa [Text.isBlankOctet, ← UInt8.toNat_inj, UInt8.le_iff_toNat_le] using h
  have hsmall : a < 0x80 ∧ a < 0xC0 := by
    simp only [UInt8.lt_iff_toNat_lt]
    exact ⟨show a.toNat < 0x80 by omega, show a.toNat < 0xC0 by omega⟩
  have hwidth : ¬ r.length + 1 < utf8Width a := by
    rw [utf8Width, if_pos hsmall.2]
    omega
  rw [utf8Glyphs, if_neg hwidth]
  unfold Text.utf8Step
  rw [if_pos hsmall.1]

/-- Two of the six blank octets may not stand in a document, and the others are blanks of
markup. -/
theorem glyphOf_blank {a : UInt8} (h : Text.isBlankOctet a = true) :
    glyphOf (Char.ofNat a.toNat).toNat = .bad ∨
      (glyphOf (Char.ofNat a.toNat).toNat).isSpace = true := by
  have hglyph : ∀ n ∈ [0x09, 0x0A, 0x0B, 0x0C, 0x0D, 0x20],
      glyphOf (Char.ofNat n).toNat = .bad ∨ (glyphOf (Char.ofNat n).toNat).isSpace = true := by
    decide
  have hrange : a.toNat = 0x20 ∨ 0x09 ≤ a.toNat ∧ a.toNat ≤ 0x0D := by
    simpa [Text.isBlankOctet, ← UInt8.toNat_inj, UInt8.le_iff_toNat_le] using h
  refine hglyph _ ?_
  simp only [List.mem_cons, List.not_mem_nil, or_false]
  omega

/-- What a prolog starts with where a glyph is no character or a blank. -/
theorem nextPrologToken_of_blank {g : Glyph} (h : g = .bad ∨ g.isSpace = true) (k : NameClass)
    (r : Source) :
    nextPrologToken k (g :: r) = .error (.invalid (g :: r)) ∨
      nextPrologToken k (g :: r) = .ok (some (.blanks, skipBlanks r)) := by
  rcases h with rfl | hspace
  · exact .inl rfl
  · cases g with
    | char c =>
      have hc : isSpace c = true := hspace
      exact .inr (by simp [nextPrologToken, hc])
    | bad | cut => cases hspace

/-- Where a document starts with a blank octet no declaration stands. -/
theorem nextPrologToken_blank {a : UInt8} (h : Text.isBlankOctet a = true) (k : NameClass)
    (r : Octets) (kind : InstructionKind) (text after rest : Source) :
    nextPrologToken k (Form.read .utf8 (a :: r)) ≠
      .ok (some (.instruction kind text after, rest)) := by
  rw [Form.read, List.length_cons, utf8Glyphs_blank h]
  rcases nextPrologToken_of_blank (glyphOf_blank h) k (utf8Glyphs (r.length + 1) r) with h | h
  all_goals
    rw [h]
    simp

/-- A document that holds blanks only has no declaration. -/
theorem not_declares_of_blank (h : octets.all Text.isBlankOctet = true) (name : List Char) :
    ¬ Declares octets name := by
  rintro ⟨form, mark, text, after, rest, _, _, hdetect, htoken, -⟩
  cases octets with
  | nil =>
    cases hdetect
    cases htoken
  | cons a r =>
    rw [detect_blank h] at hdetect
    cases hdetect
    have ha : Text.isBlankOctet a = true := (List.all_eq_true.mp h) a List.mem_cons_self
    exact nextPrologToken_blank ha _ r _ text after rest htoken

/-- A document gives no tree for its characters exactly if it declares a set that cannot be
read. -/
theorem parse_eq_error_iff {e : DocumentError} (he : e.isOfContent = false) :
    Node.parse octets = .error e ↔
      ∃ name e', Declares octets name ∧ IsUnreadableSet name e' ∧ e = .unreadable e' := by
  unfold Node.parse
  split
  · rename_i hblank
    -- blanks are an empty document, and name no set
    refine iff_of_false (fun h => ?_) ?_
    · rw [← Except.error.inj h] at he
      cases he
    · rintro ⟨name, e', hdeclares, -⟩
      exact not_declares_of_blank hblank name hdeclares
  · cases e with
    | empty => cases he
    | unreadable e =>
      have hmalformed : e.isMalformed = false := by rwa [isOfContent_unreadable] at he
      have hread : (∃ name e', Declares octets name ∧ IsUnreadableSet name e' ∧
          DocumentError.unreadable e = .unreadable e') ↔ Document.read octets = .error e := by
        rw [read_eq_error_iff hmalformed]
        constructor
        · rintro ⟨name, e', hdeclares, hset, heq⟩
          cases heq
          exact ⟨name, hdeclares, hset⟩
        · rintro ⟨name, hdeclares, hset⟩
          exact ⟨name, e, hdeclares, hset, rfl⟩
      rw [hread]
      cases Document.read octets <;> simp

end ContractDrift.Xml
