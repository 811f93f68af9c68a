/-
A written document is read back.

A text that a document may hold (`isXmlText`) is seen by the reader as the glyphs of its
characters, so the header leads the reader to the root, and the root to its end:

* `isXmlText_writeElement`, `isXmlText_inner` — a written tree is such a text;
* `Document.read_writeElement` — a written document is read back as its tree is laid out.

Design notes: the header names the form that the document has anyway, and yet the reader
reads the octets after it once more (`readStart_documentHeader`).
-/
import ContractDrift.Proofs.Text.Utf8
import ContractDrift.Proofs.Xml.WrittenElement
import ContractDrift.Xml.Node

namespace ContractDrift.Xml

/-! ## Characters that a document may hold -/

/-- Whether a document may hold all of some characters. -/
def isXmlText (cs : List Char) : Bool := cs.all fun c => isXmlChar c.toNat

@[simp]
theorem isXmlText_nil : isXmlText [] = true := rfl

@[simp]
theorem isXmlText_cons (c : Char) (cs : List Char) :
    isXmlText (c :: cs) = (isXmlChar c.toNat && isXmlText cs) := rfl

@[simp]
theorem isXmlText_append (a b : List Char) :
    isXmlText (a ++ b) = (isXmlText a && isXmlText b) := List.all_append

theorem isXmlText_flatMap {α : Type} {f : α → List Char} {xs : List α}
    (h : ∀ x ∈ xs, isXmlText (f x) = true) : isXmlText (xs.flatMap f) = true := by
  induction xs with
  | nil => rfl
  | cons x xs ih =>
    rw [List.flatMap_cons, isXmlText_append, h x List.mem_cons_self,
      ih fun y hy => h y (List.mem_cons_of_mem x hy)]
    rfl

theorem isXmlText_iff {cs : List Char} :
    isXmlText cs = true ↔ ∀ c ∈ cs, isXmlChar c.toNat = true := List.all_eq_true

theorem isXmlText_textEscape {cs : List Char} (h : isXmlText cs = true) :
    isXmlText (cs.flatMap textEscape) = true := by
  refine isXmlText_flatMap fun c hc => ?_
  have := isXmlText_iff.mp h c hc
  unfold textEscape
  split
  · decide
  · decide
  · decide
  · simpa using this

theorem isXmlText_attributeEscape {cs : List Char} (h : isXmlText cs = true) :
    isXmlText (cs.flatMap attributeEscape) = true := by
  refine isXmlText_flatMap fun c hc => ?_
  have := isXmlText_iff.mp h c hc
  unfold attributeEscape
  split
  · decide
  · decide
  · decide
  · decide
  · simpa using isXmlText_textEscape (show isXmlText [c] = true by simpa using this)

/-- The ranges of name characters lie below the surrogates. -/
theorem ranges_bounds : ∀ r ∈ letterRanges ++ continuerRanges, 0x20 ≤ r.1 ∧ r.2 < 0xD800 := by
  decide +kernel

theorem isXmlChar_of_range {n : Nat} (hlow : 0x20 ≤ n) (hhigh : n < 0xD800) :
    isXmlChar n = true := by
  simp [isXmlChar, hlow, hhigh]

theorem isXmlChar_of_continues {c : Char} (h : NameClass.plain.continues c = true) :
    isXmlChar c.toNat = true := by
  have hranges {n : Nat} (hn : Text.inRanges (letterRanges ++ continuerRanges) n = true) :
      isXmlChar n = true := by
    obtain ⟨r, hr, hlow, hhigh⟩ := Text.inRanges_eq_true_iff.mp hn
    have := ranges_bounds r hr
    exact isXmlChar_of_range (by omega) (by omega)
  unfold NameClass.continues NameClass.starts at h
  generalize c.toNat = n at h ⊢
  -- in ASCII the test is written out, above it goes by the ranges
  by_cases hn : n < 0x80
  · simp only [if_pos hn, Bool.or_eq_true, Bool.and_eq_true, decide_eq_true_eq, beq_iff_eq] at h
    exact isXmlChar_of_range (by omega) (by omega)
  · refine hranges ?_
    simp only [if_neg hn, Bool.or_eq_true] at h
    rw [Text.inRanges, List.any_append, Bool.or_eq_true]
    rcases h with (h | h) | h
    · exact Or.inl h
    · exact absurd h (by simp)
    · exact Or.inr h

theorem isXmlText_isQualified {n : List Char} (h : NameClass.plain.IsQualified n) :
    isXmlText n = true := by
  obtain ⟨c, cs, rfl, hc, hcs⟩ := h.eq_cons
  refine isXmlText_iff.mpr fun x hx => ?_
  rcases List.mem_cons.mp hx with rfl | hx
  · exact isXmlChar_of_continues (NameClass.continues_of_starts hc)
  · rcases hcs x hx with hx | rfl
    · exact isXmlChar_of_continues hx
    · decide

theorem isXmlText_written {d : Declared} (h : d.Valid) (huri : isXmlText d.uri = true) :
    isXmlText d.written = true := by
  have hname : isXmlText d.attributeName = true :=
    isXmlText_isQualified (isQualified_attributeName h.isName)
  simp only [Declared.written, isXmlText_cons, isXmlText_append, hname,
    isXmlText_attributeEscape huri]
  decide

theorem isXmlText_lineStart (depth : Nat) : isXmlText (lineStart depth).toList = true := by
  refine isXmlText_iff.mpr fun c hc => ?_
  rcases eq_of_mem_lineStart c hc with rfl | rfl <;> decide

/-! ## Written trees -/

variable {nameOf : String → String}

theorem isXmlText_writeElement {extra : String} {depth : Nat} (e : Element)
    (hname : isXmlText (nameOf e.name).toList = true) (hextra : isXmlText extra.toList = true)
    (hinner : isXmlText (e.inner nameOf depth) = true) :
    isXmlText (writeElement nameOf extra depth e).toList = true := by
  rcases e.hasContent_or with h | ⟨name, a, rfl⟩
  · rw [toList_writeElement nameOf extra depth e h]
    simp only [isXmlText_append, isXmlText_cons, hname, hextra, hinner]
    decide
  · rw [toList_writeElement_leaf]
    have hname : isXmlText (nameOf name).toList = true := hname
    simp only [isXmlText_append, isXmlText_cons, hname, hextra]
    decide

mutual

theorem isXmlText_inner : (e : Element) → (depth : Nat) →
    (∀ n ∈ Element.allNames e.children, isXmlText (nameOf n).toList = true) →
    (∀ t ∈ e.texts, isXmlText t.toList = true) → isXmlText (e.inner nameOf depth) = true
  | .mk name a text [], depth, _, htexts => by
    rw [Element.inner]
    exact isXmlText_textEscape (htexts text List.mem_cons_self)
  | .mk name a text (c :: cs), depth, hnames, htexts => by
    rw [Element.texts, List.forall_mem_cons] at htexts
    rw [Element.inner, isXmlText_append, isXmlText_lineStart,
      isXmlText_children (c :: cs) (depth + 1) hnames htexts.2]
    rfl

theorem isXmlText_children : (es : List Element) → (depth : Nat) →
    (∀ n ∈ Element.allNames es, isXmlText (nameOf n).toList = true) →
    (∀ t ∈ Element.allTexts es, isXmlText t.toList = true) →
    isXmlText (writeChildren nameOf depth es).toList = true
  | [], _, _, _ => by
    rw [writeChildren]
    rfl
  | e :: es, depth, hnames, htexts => by
    rw [Element.allNames, List.forall_mem_append] at hnames
    rw [Element.allTexts, List.forall_mem_append] at htexts
    -- a line for the child, with its name and its inside, and then the other children
    have hinner := isXmlText_inner e depth
      (fun n hn => hnames.1 n (e.mem_names_of_mem_allNames hn)) htexts.1
    have hrest := isXmlText_children es depth hnames.2 htexts.2
    have helement := isXmlText_writeElement e (hnames.1 _ e.name_mem_names)
      (show isXmlText "".toList = true from rfl) hinner
    rw [writeChildren, String.toList_append, String.toList_append, isXmlText_append,
      isXmlText_append, isXmlText_lineStart, helement, hrest]
    rfl

end

/-! ## The document -/

theorem toList_documentHeader : documentHeader.toList =
    "<?xml version='1.0' encoding='utf-8'?>".toList ++ ['\n'] := by
  decide

/-- What starts a name also starts a root. -/
theorem starts_cases {c : Char} (h : NameClass.plain.starts c = true) :
    (asciiLetter c || decide (0x80 ≤ c.toNat)) = true := by
  by_cases hn : c.toNat < 0x80
  · simp only [NameClass.starts, if_pos hn, Bool.or_eq_true, Bool.and_eq_true, decide_eq_true_eq,
      beq_iff_eq] at h
    rw [Bool.or_eq_true]
    left
    delta asciiLetter Char.isAlpha Char.isUpper Char.isLower
    simp only [Bool.or_eq_true, Bool.and_eq_true, decide_eq_true_eq, beq_iff_eq]
    rcases h with (⟨h1, h2⟩ | ⟨h1, h2⟩) | h
    · exact Or.inl (Or.inl ⟨h1, h2⟩)
    · exact Or.inl (Or.inr ⟨h1, h2⟩)
    · exact Or.inr (Char.toNat_inj.mp h)
  · simp only [Bool.or_eq_true, decide_eq_true_eq]
    omega

theorem detect_documentHeader (bs : Text.Octets) :
    Form.detect (Text.utf8Chars documentHeader.toList ++ bs) = some (.utf8, 0) := by
  rw [toList_documentHeader]
  rfl

theorem nextPrologToken_documentHeader (gs : Source) :
    ∃ text after, nextPrologToken .plain (glyphs documentHeader.toList ++ gs) =
      .ok (some (.instruction .declaration text after, .char '\n' :: gs)) ∧
      ∃ place, Declaration.parse text = .ok ⟨some ("utf-8".toList, place), none⟩ := by
  rw [toList_documentHeader]
  exact ⟨_, _, rfl, _, rfl⟩

/-- After the declaration stands the root. -/
theorem readProlog_root (d : Reading) (hform : d.form = .utf8) {c : Char}
    (hc : NameClass.plain.starts c = true) (n : Nat) (gs : Source) :
    readProlog (n + 2) false d (.char '\n' :: .char '<' :: .char c :: gs) =
      .ok (d, .char '<' :: .char c :: gs) := by
  have hroot : nextPrologToken .plain (.char '<' :: .char c :: gs) =
      .ok (some (.rootStart, .char '<' :: .char c :: gs)) := by
    have h1 : c ≠ '!' := NameClass.ne_of_starts hc (by decide)
    have h2 : c ≠ '?' := NameClass.ne_of_starts hc (by decide)
    have hmarkup : scanPrologMarkup .plain (.char '<' :: .char c :: gs) (.char c :: gs) =
        .ok (.rootStart, .char '<' :: .char c :: gs) := by
      rw [scanPrologMarkup, if_pos (starts_cases hc)]
      · exact h1
      · exact h2
    rw [nextPrologToken, if_neg (by decide)]
    simp only [hmarkup]
    rfl
  -- two tokens stand before the content: the line end of the header and the root's opening bracket
  have hblank : nextPrologToken .plain (.char '\n' :: .char '<' :: .char c :: gs) =
      .ok (some (.blanks, .char '<' :: .char c :: gs)) := rfl
  have hnames : d.form.names = .plain := by rw [hform]; rfl
  rw [readProlog, hnames]
  simp only [hblank]
  rw [readProlog, hnames]
  simp only [hroot]

/-- The header of a document is read in the form that it names. -/
theorem readStart_documentHeader {octets : Text.Octets} {body : Source} {c : Char}
    (hc : NameClass.plain.starts c = true) {gs : Source} (hbody : body = .char '<' :: .char c :: gs)
    (hrest : Form.utf8.read (octets.drop 38) = .char '\n' :: body) :
    ∃ d : Reading, d.form = .utf8 ∧ d.definitions = Definitions.empty ∧
      readStart ⟨octets, 0, .utf8, glyphs documentHeader.toList ++ body, Definitions.empty⟩ =
        .ok (d, body) := by
  obtain ⟨text, after, htoken, place, hparse⟩ := nextPrologToken_documentHeader body
  have hlength : (glyphs documentHeader.toList ++ body).length -
      ((.char '\n' : Glyph) :: body).length = 38 := by
    have : documentHeader.toList.length = 39 := by decide
    simp only [List.length_append, List.length_cons, length_glyphs, this]
    omega
  have hredirect : Form.utf8.redirect "utf-8".toList = .form .utf8 := rfl
  have hwidth : 0 + Form.utf8.width * 38 = 38 := rfl
  let d : Reading := ⟨octets, 0, .utf8, (glyphs documentHeader.toList ++ body).take 38 ++
    .char '\n' :: body, Definitions.empty⟩
  have hprolog : readProlog (((.char '\n' : Glyph) :: body).length + 1) false d
      (.char '\n' :: body) = .ok (d, body) := by
    rw [hbody]
    exact readProlog_root d rfl hc _ gs
  refine ⟨d, rfl, rfl, ?_⟩
  -- the declaration names the form that the document has, and the rest is read again
  simp only [readStart, show Form.utf8.names = .plain from rfl, htoken, bind, Except.bind,
    Reading.declare, hparse, hredirect, hlength, hwidth, hrest]
  exact hprolog

theorem skipBlanks_glyphs {blanks : List Char} (h : ∀ c ∈ blanks, isSpace c = true) :
    skipBlanks (glyphs blanks) = [] := by
  induction blanks with
  | nil => rfl
  | cons c cs ih =>
    rw [List.forall_mem_cons] at h
    have hc : Glyph.isSpace (.char c) = true := h.1
    rw [glyphs_cons, skipBlanks, List.dropWhile_cons_of_pos hc]
    exact ih h.2

/-- Blanks may follow a root. -/
theorem readEpilog_blanks {blanks : List Char} (h : ∀ c ∈ blanks, isSpace c = true)
    (k : NameClass) (n : Nat) : readEpilog k n (glyphs blanks) = .ok () := by
  have hend (n : Nat) : readEpilog k n [] = .ok () := by cases n <;> rfl
  cases n with
  | zero => rfl
  | succ n =>
    cases blanks with
    | nil => exact hend (n + 1)
    | cons c cs =>
      rw [List.forall_mem_cons] at h
      have htoken : nextPrologToken k (.char c :: glyphs cs) =
          .ok (some (.blanks, skipBlanks (glyphs cs))) := by
        simp [nextPrologToken, h.1]
      rw [glyphs_cons, readEpilog, htoken, skipBlanks_glyphs h.2]
      exact hend n

theorem isXmlText_blanks {blanks : List Char} (h : ∀ c ∈ blanks, isSpace c = true) :
    isXmlText blanks = true := by
  refine isXmlText_iff.mpr fun c hc => ?_
  have hspace := h c hc
  simp only [isSpace, Bool.or_eq_true, beq_iff_eq] at hspace
  rcases hspace with ((rfl | rfl) | rfl) | rfl <;> decide

/-- A written document is read back if its root is, and only blanks follow the root. -/
theorem Document.read_written {body blanks : List Char} (hbody : isXmlText body = true) {c : Char}
    {cs : List Char} (hstart : body = '<' :: c :: cs) (hc : NameClass.plain.starts c = true)
    (hblanks : ∀ c ∈ blanks, isSpace c = true) {s : Scope} {root : Element}
    (hread : Content.read .plain Definitions.empty (glyphs body) =
      .ok (⟨[], s, some root⟩, glyphs blanks)) :
    Document.read (Text.utf8Chars (documentHeader.toList ++ body)) = .ok root := by
  have hheader : isXmlText documentHeader.toList = true := by decide
  have hglyphs : Form.utf8.read (Text.utf8Chars (documentHeader.toList ++ body)) =
      glyphs documentHeader.toList ++ glyphs body := by
    rw [read_utf8Chars (isXmlText_iff.mp (by rw [isXmlText_append, hheader, hbody]; rfl)),
      glyphs_append]
  -- the declaration has 38 octets, and the document is read once more from there
  have hrest : Form.utf8.read ((Text.utf8Chars (documentHeader.toList ++ body)).drop 38) =
      .char '\n' :: glyphs body := by
    have hbreak : isXmlText ['\n'] = true := by decide
    rw [toList_documentHeader, List.append_assoc, Text.utf8Chars_append,
      List.drop_left' (by decide), read_utf8Chars (isXmlText_iff.mp (by
        rw [isXmlText_append, hbreak, hbody]; rfl)), glyphs_append]
    rfl
  have hdetect := detect_documentHeader (Text.utf8Chars body)
  rw [← Text.utf8Chars_append] at hdetect
  obtain ⟨d, hform, hdefinitions, hstartRead⟩ := readStart_documentHeader hc
    (show glyphs body = .char '<' :: .char c :: glyphs cs by rw [hstart]; rfl) hrest
  have hends : d.endsInside = false := by
    rw [Reading.endsInside, hform]
    rfl
  have hbodyRead : readBody d (glyphs body) = .ok root := by
    simp only [readBody, hform, show Form.utf8.names = .plain from rfl, hdefinitions, hread,
      readEpilog_blanks hblanks, bind, Except.bind]
    rfl
  rw [Document.read, hdetect]
  simp only [List.drop_zero, hglyphs, Reading.finish, hstartRead, bind, Except.bind, hbodyRead]
  rw [hends, if_neg Bool.false_ne_true]
  rfl

/-- A written tree is read back as it is laid out, also where blanks follow it. -/
theorem Document.read_writeElement (root : Element)
    (hroot : root.text ≠ "" ∨ root.children ≠ [])
    {ds : List Declared} (hds : ∀ d ∈ ds, d.Valid) (hnodup : (ds.map Declared.pfx).Nodup)
    (hnames : ∀ n ∈ root.names, (Scope.initial.declare ds).Reads nameOf n)
    {extra : String} (hextra : extra.toList = ds.flatMap Declared.written)
    (huris : ∀ d ∈ ds, isXmlText d.uri = true)
    (htexts : ∀ t ∈ root.texts, isXmlText t.toList = true)
    {blanks : String} (hblanks : ∀ c ∈ blanks.toList, isSpace c = true) :
    Document.read (Text.utf8 (documentHeader ++ writeElement nameOf extra 0 root ++ blanks)) =
      .ok (root.laidOut 0) := by
  have hname := (hnames _ root.name_mem_names).isQualified
  have hread := Content.read_writeElement root hroot hds hnodup hnames hextra
    (glyphs blanks.toList)
  have hextraText : isXmlText extra.toList = true := by
    rw [hextra]
    exact isXmlText_flatMap fun d hd => isXmlText_written (hds d hd) (huris d hd)
  have hinside : ∀ n ∈ Element.allNames root.children, isXmlText (nameOf n).toList = true :=
    fun n hn => isXmlText_isQualified (hnames n (root.mem_names_of_mem_allNames hn)).isQualified
  have htext := isXmlText_writeElement root (isXmlText_isQualified hname) hextraText
    (isXmlText_inner root 0 hinside htexts)
  -- the root's name starts with a letter, which tells its tag from other markup
  obtain ⟨c, cs, htag, hc, -⟩ := hname.eq_cons
  have hstart : (writeElement nameOf extra 0 root).toList ++ blanks.toList =
      '<' :: c :: (cs ++ extra.toList ++ ['>'] ++ root.inner nameOf 0 ++
        ('<' :: '/' :: (nameOf root.name).toList ++ ['>']) ++ blanks.toList) := by
    rw [toList_writeElement nameOf extra 0 root hroot, htag]
    simp
  rw [← glyphs_append] at hread
  rw [Text.utf8, String.toList_append, String.toList_append, List.append_assoc]
  refine Document.read_written ?_ hstart hc hblanks hread
  rw [isXmlText_append, htext, isXmlText_blanks hblanks]
  rfl

end ContractDrift.Xml
