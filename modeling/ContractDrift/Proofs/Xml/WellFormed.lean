/-
Documents that have a root have a tree.

A document of blanks only is refused before it is read.  Nothing is lost by that: it has no root
(`read_blank`), so whatever document is read to an element has a tree (`parse_of_read`).  Such a
document consists of its start and its content (`exists_content_of_read`).
-/
import ContractDrift.Proofs.Xml.CharacterSet

namespace ContractDrift.Xml

open ContractDrift.Text (Octets)

variable {octets : Octets} {gs : Source}

theorem utf8Glyphs_blanks (h : octets.all Text.isBlankOctet = true) (n : Nat) :
    ∀ g ∈ utf8Glyphs n octets, g = .bad ∨ g.isSpace = true := by
  induction octets generalizing n with
  | nil => cases n <;> exact fun _ hg => absurd hg List.not_mem_nil
  | cons a r ih =>
    cases n with
    | zero => exact fun _ hg => absurd hg List.not_mem_nil
    | succ n =>
      rw [List.all_cons, Bool.and_eq_true] at h
      rw [utf8Glyphs_blank h.1]
      intro g hg
      rcases List.mem_cons.mp hg with rfl | hg
      · exact glyphOf_blank h.1
      · exact ih h.2 n g hg

/-- No root is found among blanks. -/
theorem readProlog_blanks (h : ∀ g ∈ gs, g = .bad ∨ g.isSpace = true) (n : Nat) (seen : Bool)
    (d : Reading) : ∃ e, readProlog n seen d gs = .error e := by
  -- blanks are passed over until the text is at its end, which is too early
  induction n generalizing gs with
  | zero => exact ⟨_, rfl⟩
  | succ n ih =>
    cases gs with
    | nil => exact ⟨_, rfl⟩
    | cons g r =>
      have hrest : ∀ g ∈ skipBlanks r, g = .bad ∨ g.isSpace = true := fun g hg =>
        h g (List.mem_cons_of_mem _ ((List.dropWhile_sublist _).mem hg))
      rw [readProlog]
      rcases nextPrologToken_of_blank (h g List.mem_cons_self) d.form.names r with htoken | htoken
      · rw [htoken]
        exact ⟨_, rfl⟩
      · rw [htoken]
        exact ih hrest

theorem readStart_blanks {d : Reading} (h : ∀ g ∈ d.whole, g = .bad ∨ g.isSpace = true) :
    ∃ e, readStart d = .error e := by
  have hnot (text after rest : Source) : nextPrologToken d.form.names d.whole ≠
      .ok (some (.instruction .declaration text after, rest)) := by
    cases hwhole : d.whole with
    | nil => simp [nextPrologToken]
    | cons g r =>
      have hg : g = .bad ∨ g.isSpace = true := h g (by simp [hwhole])
      rcases nextPrologToken_of_blank hg d.form.names r with htoken | htoken
      all_goals
        rw [htoken]
        simp
  -- without a declaration a document is read from where it starts
  simp only [readStart]
  exact readProlog_blanks h _ _ _

/-- A document of blanks only has no root. -/
theorem read_blank (h : octets.all Text.isBlankOctet = true) :
    ∃ e, Document.read octets = .error e := by
  have hdetect : Form.detect octets = some (.utf8, 0) := by
    cases octets with
    | nil => rfl
    | cons a r => exact detect_blank h
  obtain ⟨e, he⟩ := readStart_blanks
    (d := ⟨octets, 0, .utf8, Form.read .utf8 octets, Definitions.empty⟩) (utf8Glyphs_blanks h _)
  refine ⟨e, ?_⟩
  rw [Document.read, hdetect]
  simp only [Reading.finish, List.drop_zero, he]
  rfl

/-- The tree of a document that is read to an element. -/
theorem parse_of_read {e : Element} (h : Document.read octets = .ok e) :
    Node.parse octets = .ok (Node.ofElement e) := by
  unfold Node.parse
  split
  · rename_i hblank
    obtain ⟨e', he'⟩ := read_blank hblank
    rw [he'] at h
    cases h
  · rw [h]

theorem exists_read_of_parse {root : Node} (h : Node.parse octets = .ok root) :
    ∃ e, Document.read octets = .ok e ∧ Node.ofElement e = root := by
  unfold Node.parse at h
  split at h
  · cases h
  · split at h
    · rename_i e hread
      exact ⟨e, hread, Except.ok.inj h⟩
    · cases h

/-! ## The start of a document and its content -/

/-- The start of a document, up to its root. -/
def startOf (octets : Octets) : Except ReadError (Reading × Source) :=
  match Form.detect octets with
  | none => .error (.malformed .unclosedToken 1 0)
  | some (form, mark) =>
    readStart ⟨octets, mark, form, form.read (octets.drop mark), Definitions.empty⟩

/-- A document that is read to an element has a start, and a content with this root. -/
theorem exists_content_of_read {e : Element}
    (h : Document.read octets = .ok e) :
    ∃ d gs b rest, startOf octets = .ok (d, gs) ∧
      Content.read d.form.names d.definitions gs = .ok (b, rest) ∧ b.root = some e := by
  unfold Document.read at h
  unfold startOf
  cases hdetect : Form.detect octets with
  | none =>
    rw [hdetect] at h
    cases h
  | some start =>
    rw [hdetect] at h
    obtain ⟨⟨d, gs⟩, hstart, h⟩ := bind_eq_ok_iff.mp h
    simp only at h
    split at h
    · rename_i e' hbody
      split at h
      · cases h
      · cases h
        obtain ⟨⟨b, rest⟩, hread, hbody⟩ := bind_eq_ok_iff.mp hbody
        obtain ⟨-, -, hbody⟩ := bind_eq_ok_iff.mp hbody
        split at hbody
        -- content is followed by an epilog, which leaves the root as it is
        · rename_i e'' hroot
          cases hbody
          exact ⟨d, gs, b, rest, hstart, hread, hroot⟩
        · cases hbody
    · cases h

end ContractDrift.Xml
