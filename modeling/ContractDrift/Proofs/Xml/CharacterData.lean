/-
Character data is read as it was written.

`textEscape` writes the characters of markup as references to the predefined entities.
`passes_text` is the law of a whole text: the walk over what was written up to the next
tag adds the text to the innermost element, with its line ends unified.

Design notes: a piece of plain data ends at markup or at the end of a line, so the text
is taken apart into runs of plain characters (`exists_plain_run`) and single others.
-/
import Mathlib.Tactic.Tauto
import ContractDrift.Proofs.Xml.Walk
import ContractDrift.Xml.Writer
import ContractDrift.Text.Line

namespace ContractDrift.Xml

/-- Whether a character stands for itself in written text and ends no line. -/
def isPlainData (c : Char) : Bool :=
  c != '<' && c != '&' && c != '>' && c != '\r' && c != '\n'

/-- Whether plain character data ends where this character stands. -/
def endsData (s : Char) : Bool := s == '<' || s == '&' || s == '\r' || s == '\n'

theorem isPlainData_iff {c : Char} :
    isPlainData c = true ↔ c ≠ '<' ∧ c ≠ '&' ∧ c ≠ '>' ∧ c ≠ '\r' ∧ c ≠ '\n' := by
  simp [isPlainData, and_assoc]

theorem endsData_iff {s : Char} :
    endsData s = true ↔ s = '<' ∨ s = '&' ∨ s = '\r' ∨ s = '\n' := by
  simp [endsData, or_assoc]

variable {s : Char}

/-- Where plain data ends before other markup, no bracket closes a section there. -/
theorem plain_ne_closing {cs : List Char} (hcs : ∀ x ∈ cs, isPlainData x = true)
    (hs : endsData s = true) (r : Source) :
    glyphs cs ++ .char s :: r ≠ [] ∧ glyphs cs ++ .char s :: r ≠ [.char ']'] ∧
      ∀ r', glyphs cs ++ .char s :: r ≠ .char ']' :: .char '>' :: r' := by
  have hbracket : s ≠ ']' ∧ s ≠ '>' := by
    rcases endsData_iff.mp hs with rfl | rfl | rfl | rfl <;> decide
  refine ⟨by simp, ?_, fun r' h => ?_⟩
  · cases cs with
    | nil => simp [hbracket.1]
    | cons c cs => simp
  -- a closing bracket would be the first character, and a greater-than sign the second
  · match cs, hcs, h with
    | [], _, h => simp [hbracket.1] at h
    | [_], _, h => simp [hbracket.2] at h
    | _ :: c :: _, hcs, h =>
      have hc := isPlainData_iff.mp (hcs c (by simp))
      simp [hc.2.2.1] at h

theorem scanData_cons {c : Char} {cs : List Char} (hc : isPlainData c = true)
    (hcs : ∀ x ∈ cs, isPlainData x = true) (hs : endsData s = true) (acc : List Char) (r : Source) :
    scanData acc (.char c :: (glyphs cs ++ .char s :: r)) =
      scanData (c :: acc) (glyphs cs ++ .char s :: r) := by
  obtain ⟨h1, h2, -, h4, h5⟩ := isPlainData_iff.mp hc
  obtain ⟨hne1, hne2, hne3⟩ := plain_ne_closing hcs hs r
  generalize glyphs cs ++ .char s :: r = gs at hne1 hne2 hne3 ⊢
  -- the right side is not to be unfolded, since it is the result of the step
  conv => lhs; unfold scanData
  split
  · rename_i h
    exact absurd h (by simp)
  · rename_i r' h
    exact absurd (List.cons.inj h).2 (hne3 r')
  · rename_i h
    exact absurd (List.cons.inj h).2 hne2
  · rename_i h
    exact absurd (List.cons.inj h).2 hne1
  · rename_i h
    obtain ⟨hg, rfl⟩ := List.cons.inj h
    obtain rfl := Glyph.char.inj hg
    rw [if_neg (by simp [h1, h2, h4, h5])]
  · rename_i hchar h
    obtain ⟨rfl, rfl⟩ := List.cons.inj h
    exact (hchar c rfl).elim

theorem scanData_append {cs : List Char} (hcs : ∀ x ∈ cs, isPlainData x = true)
    (hs : endsData s = true) (acc : List Char) (r : Source) :
    scanData acc (glyphs cs ++ .char s :: r) = .ok (acc.reverse ++ cs, .char s :: r) := by
  induction cs generalizing acc with
  | nil =>
    rcases endsData_iff.mp hs with rfl | rfl | rfl | rfl <;> simp [scanData]
  | cons c cs ih =>
    have hcs' : ∀ x ∈ cs, isPlainData x = true := fun x hx => hcs x (List.mem_cons_of_mem c hx)
    rw [glyphs_cons, List.cons_append, scanData_cons (hcs c List.mem_cons_self) hcs' hs, ih hcs']
    simp

theorem nextPiece_plain {k : NameClass} {c : Char} {cs : List Char} (hc : isPlainData c = true)
    (hcs : ∀ x ∈ cs, isPlainData x = true) (hs : endsData s = true) (r : Source) :
    nextPiece k (glyphs (c :: cs) ++ .char s :: r) = .piece (.data (c :: cs)) (.char s :: r) := by
  have hscan := scanData_append (List.forall_mem_cons.mpr ⟨hc, hcs⟩) hs [] r
  obtain ⟨h1, h2, -, h4, h5⟩ := isPlainData_iff.mp hc
  obtain ⟨hne1, hne2, hne3⟩ := plain_ne_closing hcs hs r
  rw [glyphs_cons, List.cons_append] at hscan ⊢
  generalize glyphs cs ++ .char s :: r = gs at hne1 hne2 hne3 hscan ⊢
  unfold nextPiece
  split <;> simp_all

/-! ## Walking over text -/

variable {expand : Expansion} {b : Builder}

/-- A character of markup is read from its escape, and a line feed from itself. -/
theorem passes_escape {c : Char} (hc : c = '<' ∨ c = '&' ∨ c = '>' ∨ c = '\n') (b : Builder)
    (gs : Source) : Passes expand b (glyphs (textEscape c) ++ gs) (b.data [c]) gs := by
  rcases hc with rfl | rfl | rfl | rfl
  · exact Passes.predefined (by decide) rfl rfl
  · exact Passes.predefined (by decide) rfl rfl
  · exact Passes.predefined (by decide) rfl rfl
  · exact Passes.data (by decide) rfl

/-- A carriage return is read as a line feed, and takes in one that follows it. -/
theorem nextPiece_return {k : NameClass} {g : Glyph} (h : g ≠ .char '\n') (gs : Source) :
    nextPiece k (.char '\r' :: g :: gs) = .piece (.data ['\n']) (g :: gs) := by
  rw [nextPiece]
  · simp
  · rintro r he
    exact h (List.cons.inj he).1

theorem textEscape_plain {c : Char} (h : isPlainData c = true) : textEscape c = [c] := by
  obtain ⟨h1, h2, h3, -, -⟩ := isPlainData_iff.mp h
  unfold textEscape
  split <;> simp_all

theorem not_plain_iff {c : Char} :
    isPlainData c = false ↔ c = '\r' ∨ c = '<' ∨ c = '&' ∨ c = '>' ∨ c = '\n' := by
  simp only [isPlainData, Bool.and_eq_false_iff, bne_eq_false_iff_eq]
  tauto

theorem exists_plain_run (cs : List Char) :
    ∃ p q, cs = p ++ q ∧ (∀ x ∈ p, isPlainData x = true) ∧
      ∀ x ∈ q.head?, isPlainData x = false := by
  refine ⟨cs.takeWhile isPlainData, cs.dropWhile isPlainData,
    List.takeWhile_append_dropWhile.symm, List.all_eq_true.mp List.all_takeWhile, ?_⟩
  intro x hx
  have := List.head?_dropWhile_not isPlainData cs
  rw [Option.mem_def] at hx
  simpa [hx] using this

/-- Written text that does not start with plain data starts where such data ends. -/
theorem exists_endsData {cs : List Char} (h : ∀ c ∈ cs.head?, isPlainData c = false) (r : Source) :
    ∃ s r', glyphs (cs.flatMap textEscape) ++ .char '<' :: r = .char s :: r' ∧
      endsData s = true := by
  cases cs with
  | nil => exact ⟨'<', r, rfl, rfl⟩
  | cons c cs =>
    rcases not_plain_iff.mp (h c rfl) with rfl | rfl | rfl | rfl | rfl
    all_goals exact ⟨_, _, rfl, rfl⟩

theorem exists_ne_lineFeed {cs : List Char} (h : cs.head? ≠ some '\n') (r : Source) :
    ∃ g gs, glyphs (cs.flatMap textEscape) ++ .char '<' :: r = g :: gs ∧ g ≠ .char '\n' := by
  cases cs with
  | nil => exact ⟨_, _, rfl, by decide⟩
  | cons c cs =>
    have hc : c ≠ '\n' := by simpa using h
    rw [List.flatMap_cons, glyphs_append, List.append_assoc]
    unfold textEscape
    split
    · exact ⟨_, _, rfl, by decide⟩
    · exact ⟨_, _, rfl, by decide⟩
    · exact ⟨_, _, rfl, by decide⟩
    · exact ⟨_, _, rfl, fun e => hc (Glyph.char.inj e)⟩

theorem unifyEnds_cons {c : Char} (hc : c ≠ '\r') (cs : List Char) :
    Text.unifyEnds (c :: cs) = [c] ++ Text.unifyEnds cs := by
  rw [Text.unifyEnds, if_neg hc]
  · rfl
  · rintro r rfl
    exact absurd rfl hc

theorem unifyEnds_return {cs : List Char} (h : cs.head? ≠ some '\n') :
    Text.unifyEnds ('\r' :: cs) = ['\n'] ++ Text.unifyEnds cs := by
  rw [Text.unifyEnds, if_pos rfl]
  · rfl
  · rintro r - rfl
    exact absurd rfl h

theorem unifyEnds_plain {p : List Char} (h : ∀ c ∈ p, isPlainData c = true) (q : List Char) :
    Text.unifyEnds (p ++ q) = p ++ Text.unifyEnds q := by
  induction p with
  | nil => rfl
  | cons c p ih =>
    have hc := (isPlainData_iff.mp (h c List.mem_cons_self)).2.2.2.1
    rw [List.cons_append, unifyEnds_cons hc, ih fun x hx => h x (List.mem_cons_of_mem c hx)]
    rfl

theorem flatMap_textEscape_plain {p : List Char} (h : ∀ c ∈ p, isPlainData c = true) :
    p.flatMap textEscape = p := by
  induction p with
  | nil => rfl
  | cons c p ih =>
    rw [List.flatMap_cons, textEscape_plain (h c List.mem_cons_self),
      ih fun x hx => h x (List.mem_cons_of_mem c hx)]
    rfl

/-- Written text adds itself to the innermost element, with its line ends unified. -/
theorem passes_text (expand : Expansion) (cs : List Char) (b : Builder) (r : Source) :
    Passes expand b (glyphs (cs.flatMap textEscape) ++ .char '<' :: r)
      (b.data (Text.unifyEnds cs)) (.char '<' :: r) := by
  -- a piece may take in many characters, so the induction is on how many are left
  induction hlen : cs.length using Nat.strongRecOn generalizing cs b with
  | ind n ih =>
  subst hlen
  match cs with
  | [] =>
    rw [Text.unifyEnds, Builder.data_nil]
    exact Passes.refl b _
  | c :: cs =>
    have hrest (b : Builder) := ih cs.length (by simp) cs b rfl
    by_cases hc : isPlainData c = true
    · -- a run of plain data is one piece
      obtain ⟨p, q, rfl, hp, hq⟩ := exists_plain_run cs
      obtain ⟨s, r', hs, hstop⟩ := exists_endsData hq r
      have hpiece := nextPiece_plain (k := .plain) hc hp hstop r'
      have hcp : ∀ x ∈ c :: p, isPlainData x = true := List.forall_mem_cons.mpr ⟨hc, hp⟩
      rw [← List.cons_append, List.flatMap_append, flatMap_textEscape_plain hcp,
        unifyEnds_plain hcp, ← Builder.data_data, glyphs_append, List.append_assoc]
      rw [← hs] at hpiece
      have hlength : q.length < (c :: (p ++ q)).length := by
        rw [List.length_cons, List.length_append]
        omega
      exact (Passes.data (List.cons_ne_nil c p) hpiece).trans (ih q.length hlength q _ rfl)
    rcases not_plain_iff.mp (Bool.eq_false_iff.mpr hc) with rfl | hc'
    · -- a carriage return is not escaped, and takes a line feed with it
      by_cases hcs : cs.head? = some '\n'
      · obtain ⟨cs, rfl⟩ : ∃ cs', cs = '\n' :: cs' := List.head?_eq_some_iff.mp hcs
        have hlength : cs.length < ('\r' :: '\n' :: cs).length := by
          rw [List.length_cons, List.length_cons]
          omega
        have hline := ih cs.length hlength cs (b.data ['\n']) rfl
        rw [Builder.data_data] at hline
        exact (Passes.data (w := ['\r', '\n']) (by decide) rfl).trans hline
      · obtain ⟨g, gs, hg, hne⟩ := exists_ne_lineFeed hcs r
        have hpiece := nextPiece_return (k := .plain) hne gs
        rw [← hg] at hpiece
        rw [unifyEnds_return hcs, ← Builder.data_data]
        exact (Passes.data (w := ['\r']) (by decide) hpiece).trans (hrest _)
    · have hne : c ≠ '\r' := by rcases hc' with rfl | rfl | rfl | rfl <;> decide
      rw [List.flatMap_cons, glyphs_append, List.append_assoc, unifyEnds_cons hne,
        ← Builder.data_data]
      exact (passes_escape hc' b _).trans (hrest _)

end ContractDrift.Xml
