/-
A text that starts with digits is no document.

Where a prolog starts with a digit there is a name token (`nextPrologToken_digit`), which is neither
a blank nor markup, so no root is found behind it, whatever follows.  The text is refused for what
it says, and not for its characters (`parse_digits`).
-/
import ContractDrift.Proofs.Text.Utf8
import ContractDrift.Proofs.Xml.WellFormed

namespace ContractDrift.Xml

/-! ## Tokens of names -/

/-- Whether a token is a name of some kind. -/
def PrologToken.IsName : PrologToken → Prop
  | .name _ | .prefixedName _ | .nameToken _ | .markedName _ => True
  | _ => False

theorem NameShape.isName_toToken (s : NameShape) (n : List Char) : (s.toToken n).IsName := by
  cases s <;> trivial

variable {k : NameClass} {token : PrologToken} {r gs : Source}

theorem isName_of_scanPrologName {fuel : Nat} {s : NameShape} {acc : List Char}
    (h : scanPrologName k fuel s acc gs = .ok (token, r)) : token.IsName := by
  -- the shape of the name grows with what is read of it, and each shape gives a token of a name
  induction fuel generalizing s acc gs with
  | zero =>
    cases h
    exact s.isName_toToken _
  | succ fuel ih =>
    obtain ⟨⟨acc', r'⟩, -, h⟩ := bind_eq_ok_iff.mp h
    simp only at h
    split at h
    · cases h
      exact s.isName_toToken _
    · split at h
      · split at h
        · cases h
        · cases h
        · cases h
        · split at h
          · exact ih h
          · split at h
            · exact ih h
            · cases h
      · exact ih h
    · split at h
      · cases h
        exact s.isName_toToken _
      · split at h
        · split at h
          · cases h
          · cases h
            trivial
        · cases h
    · cases h

/-! ## Digits -/

variable {c d : Char}

theorem mem_digits (h : c.isDigit = true) :
    c ∈ ['0', '1', '2', '3', '4', '5', '6', '7', '8', '9'] := by
  have hrange : 48 ≤ c.toNat ∧ c.toNat ≤ 57 := by
    simpa [Char.isDigit, UInt32.le_iff_toNat_le] using h
  have hall : ∀ n < 58, 48 ≤ n →
      Char.ofNat n ∈ ['0', '1', '2', '3', '4', '5', '6', '7', '8', '9'] := by decide
  rw [← Char.ofNat_toNat c]
  exact hall _ (Nat.lt_succ_of_le hrange.2) hrange.1

/-- Where a prolog starts with a digit there is a name, if anything. -/
theorem nextPrologToken_digit (h : c.isDigit = true) (r : Source) :
    (∃ s, nextPrologToken .plain (.char c :: r) = .error s) ∨
      ∃ token r', nextPrologToken .plain (.char c :: r) = .ok (some (token, r')) ∧
        token.IsName := by
  have hnext : nextPrologToken .plain (.char c :: r) =
      some <$> scanPrologName .plain (r.length + 1) .token [c] r := by
    have hc := mem_digits h
    simp only [List.mem_cons, List.not_mem_nil, or_false] at hc
    rcases hc with rfl | rfl | rfl | rfl | rfl | rfl | rfl | rfl | rfl | rfl <;> rfl
  rw [hnext]
  cases hscan : scanPrologName .plain (r.length + 1) .token [c] r with
  | error s => exact Or.inl ⟨s, rfl⟩
  | ok x => exact Or.inr ⟨x.1, x.2, rfl, isName_of_scanPrologName hscan⟩

theorem nextPrologToken_digit_ne_instruction (h : c.isDigit = true) {kind : InstructionKind}
    {text after rest : Source} :
    nextPrologToken .plain (.char c :: r) ≠ .ok (some (.instruction kind text after, rest)) := by
  intro hinstruction
  rcases nextPrologToken_digit h r with ⟨s, hnext⟩ | ⟨token, r', hnext, hname⟩
  · exact nomatch hinstruction.symm.trans hnext
  · cases hinstruction.symm.trans hnext
    exact hname.elim

/-- A document that starts with two digits is read as text in octets. -/
theorem detect_digits (hc : c.isDigit = true) (hd : d.isDigit = true) (cs : List Char) :
    Form.detect (Text.utf8Chars (c :: d :: cs)) = some (.utf8, 0) := by
  have hc := mem_digits hc
  have hd := mem_digits hd
  simp only [List.mem_cons, List.not_mem_nil, or_false] at hc hd
  rcases hc with rfl | rfl | rfl | rfl | rfl | rfl | rfl | rfl | rfl | rfl <;>
    rcases hd with rfl | rfl | rfl | rfl | rfl | rfl | rfl | rfl | rfl | rfl <;> rfl

theorem read_digit (hc : c.isDigit = true) (cs : List Char) :
    ∃ gs, Form.utf8.read (Text.utf8Chars (c :: cs)) = .char c :: gs := by
  have hxml : ['0', '1', '2', '3', '4', '5', '6', '7', '8', '9'].all
      (fun x => isXmlChar x.toNat) = true := by decide
  refine ⟨cs.map fun x => glyphOf x.toNat, ?_⟩
  rw [Form.read, utf8Glyphs_utf8Chars _ (Nat.lt_succ_self _), List.map_cons, glyphOf,
    if_pos (List.all_eq_true.mp hxml c (mem_digits hc)), Char.ofNat_toNat]

/-- No root is found behind a digit. -/
theorem readStart_digit {d : Reading} (hform : d.form = .utf8) (hwhole : d.whole = .char c :: gs)
    (hc : c.isDigit = true) : ∃ e, readStart d = .error e := by
  have hnames : d.form.names = .plain := by rw [hform]; rfl
  -- what starts with a digit is a name or no token, and neither may stand before the root
  have hprolog : ∃ e, readProlog (d.whole.length + 1) false d d.whole = .error e := by
    rw [readProlog, hnames, hwhole]
    rcases nextPrologToken_digit hc gs with ⟨s, htoken⟩ | ⟨token, r, htoken, hname⟩
    · rw [htoken]
      exact ⟨_, rfl⟩
    · rw [htoken]
      cases token with
      | name | prefixedName | nameToken | markedName => exact ⟨_, rfl⟩
      | _ => exact hname.elim
  simp only [readStart, hnames]
  split
  · rename_i text after rest hdeclaration
    rw [hwhole] at hdeclaration
    exact absurd hdeclaration (nextPrologToken_digit_ne_instruction hc)
  · exact hprolog

/-- A text that starts with two digits is no document, for what it says. -/
theorem parse_digits (hc : c.isDigit = true) (hd : d.isDigit = true) (cs : List Char) :
    ∃ e, Node.parse (Text.utf8Chars (c :: d :: cs)) = .error e ∧ e.isOfContent = true := by
  have hdetect := detect_digits hc hd cs
  obtain ⟨gs, hread⟩ := read_digit hc (d :: cs)
  cases hparse : Node.parse (Text.utf8Chars (c :: d :: cs)) with
  | ok root =>
    obtain ⟨e, he⟩ := readStart_digit (d := ⟨Text.utf8Chars (c :: d :: cs), 0, .utf8,
      Form.utf8.read (Text.utf8Chars (c :: d :: cs)), Definitions.empty⟩) rfl hread hc
    obtain ⟨element, helement, -⟩ := exists_read_of_parse hparse
    obtain ⟨d, gs, b, rest, hstart, -⟩ := exists_content_of_read helement
    simp only [startOf, hdetect, List.drop_zero, he] at hstart
    cases hstart
  | error e =>
    cases hcontent : e.isOfContent with
    | true => exact ⟨e, rfl, hcontent⟩
    | false =>
      -- only a declaration can name a character set that cannot be read
      obtain ⟨name, e', hdeclares, -⟩ := (parse_eq_error_iff hcontent).mp hparse
      obtain ⟨form, mark, text, after, rest, _, _, hform, htoken, -⟩ := hdeclares
      rw [hdetect] at hform
      cases hform
      rw [List.drop_zero, hread] at htoken
      exact absurd htoken (nextPrologToken_digit_ne_instruction hc)

end ContractDrift.Xml
