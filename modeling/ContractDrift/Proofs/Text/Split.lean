/-
A separator cuts a text where it stands.

`splitFirst` and `splitLast` answer the two parts of a text that is put together around a
separator, when that is the first one or the last one, and nothing where there is none.
`splitAll` answers the pieces that a text is put together from with a separator between them
(`intercalate_splitAll`, `splitAll_intercalate`).
-/
import Mathlib.Data.List.Basic
import ContractDrift.Text.Search

namespace ContractDrift.Text

variable {sep : Char} {a b : List Char}

theorem splitFirst_append (h : sep ∉ a) (b : List Char) :
    splitFirst sep (a ++ sep :: b) = some (a, b) := by
  induction a with
  | nil => simp [splitFirst]
  | cons c a ih =>
    rw [List.mem_cons, not_or] at h
    rw [List.cons_append, splitFirst, if_neg (Ne.symm h.1), ih h.2]
    rfl

theorem splitFirst_eq_none (h : sep ∉ a) : splitFirst sep a = none := by
  induction a with
  | nil => rfl
  | cons c a ih =>
    rw [List.mem_cons, not_or] at h
    rw [splitFirst, if_neg (Ne.symm h.1), ih h.2]
    rfl

theorem splitLast_append (a : List Char) (h : sep ∉ b) :
    splitLast sep (a ++ sep :: b) = some (a, b) := by
  have hreverse : (a ++ sep :: b).reverse = b.reverse ++ sep :: a.reverse := by simp
  rw [splitLast, hreverse, splitFirst_append (by simpa using h)]
  simp

theorem splitLast_eq_none (h : sep ∉ a) : splitLast sep a = none := by
  rw [splitLast, splitFirst_eq_none (by simpa using h)]
  rfl

theorem exists_splitLast (h : sep ∈ a) : ∃ parts, splitLast sep a = some parts := by
  obtain ⟨front, back, hcut, hfront⟩ := List.eq_append_cons_of_mem (List.mem_reverse.mpr h)
  exact ⟨(back.reverse, front.reverse), by rw [splitLast, hcut, splitFirst_append hfront]; rfl⟩

theorem startsWith_iff {pre cs : List Char} : startsWith pre cs = true ↔ pre <+: cs := by
  unfold startsWith
  induction pre generalizing cs with
  | nil => simp [dropPrefix?]
  | cons c pre ih =>
    cases cs with
    | nil => simp [dropPrefix?]
    | cons d cs =>
      rw [dropPrefix?, List.cons_prefix_cons, ← ih]
      split <;> simp_all

theorem dropPrefix?_eq_some_iff {pre cs r : List Char} :
    dropPrefix? pre cs = some r ↔ cs = pre ++ r := by
  induction pre generalizing cs with
  | nil => simp [dropPrefix?]
  | cons c pre ih =>
    cases cs with
    | nil => simp [dropPrefix?]
    | cons d cs =>
      rw [dropPrefix?, List.cons_append, List.cons.injEq]
      by_cases hc : c = d
      · rw [if_pos hc, ih, and_iff_right hc.symm]
      · simp [hc, Ne.symm hc]

theorem endsWith_iff {post cs : List Char} : endsWith post cs = true ↔ post <:+ cs := by
  rw [endsWith, startsWith_iff, List.reverse_prefix]

/-! ## All pieces -/

theorem splitAll_cons_of_ne {c : Char} (h : c ≠ sep) (cs : List Char) :
    ∃ p ps, splitAll sep cs = p :: ps ∧ splitAll sep (c :: cs) = (c :: p) :: ps := by
  cases hs : splitAll sep cs with
  | nil => exact absurd hs (splitAll_ne_nil sep cs)
  | cons p ps => exact ⟨p, ps, rfl, by rw [splitAll, if_neg h, hs]⟩

/-- No piece holds the separator. -/
theorem not_mem_splitAll {cs p : List Char} (h : p ∈ splitAll sep cs) : sep ∉ p := by
  induction cs generalizing p with
  | nil =>
    obtain rfl : p = [] := by simpa [splitAll] using h
    exact List.not_mem_nil
  | cons c cs ih =>
    by_cases hc : c = sep
    · rw [splitAll, if_pos hc, List.mem_cons] at h
      rcases h with rfl | h
      · exact List.not_mem_nil
      · exact ih h
    · obtain ⟨q, qs, hs, hs'⟩ := splitAll_cons_of_ne hc cs
      rw [hs', List.mem_cons] at h
      rcases h with rfl | h
      · rw [List.mem_cons, not_or]
        exact ⟨Ne.symm hc, ih (hs ▸ List.mem_cons_self)⟩
      · exact ih (hs ▸ List.mem_cons_of_mem q h)

/-- The pieces hold characters of the text only. -/
theorem mem_of_mem_splitAll {cs p : List Char} {c : Char} (h : p ∈ splitAll sep cs)
    (hc : c ∈ p) : c ∈ cs := by
  induction cs generalizing p with
  | nil =>
    obtain rfl : p = [] := by simpa [splitAll] using h
    exact absurd hc List.not_mem_nil
  | cons d cs ih =>
    by_cases hd : d = sep
    · rw [splitAll, if_pos hd, List.mem_cons] at h
      rcases h with rfl | h
      · exact absurd hc List.not_mem_nil
      · exact List.mem_cons_of_mem d (ih h hc)
    · obtain ⟨q, qs, hs, hs'⟩ := splitAll_cons_of_ne hd cs
      rw [hs', List.mem_cons] at h
      rcases h with rfl | h
      · rcases List.mem_cons.mp hc with rfl | hc
        · exact List.mem_cons_self
        · exact List.mem_cons_of_mem d (ih (hs ▸ List.mem_cons_self) hc)
      · exact List.mem_cons_of_mem d (ih (hs ▸ List.mem_cons_of_mem q h) hc)

theorem splitAll_append {p : List Char} (h : sep ∉ p) (cs : List Char) :
    splitAll sep (p ++ sep :: cs) = p :: splitAll sep cs := by
  induction p with
  | nil => simp [splitAll]
  | cons c p ih =>
    rw [List.mem_cons, not_or] at h
    rw [List.cons_append, splitAll, if_neg (Ne.symm h.1), ih h.2]

/-- A text is cut at a separator into the pieces before it and those after it. -/
theorem splitAll_append_sep (a b : List Char) :
    splitAll sep (a ++ sep :: b) = splitAll sep a ++ splitAll sep b := by
  induction a with
  | nil => simp [splitAll]
  | cons c a ih =>
    by_cases hc : c = sep
    · rw [List.cons_append, splitAll, splitAll, if_pos hc, if_pos hc, ih, List.cons_append]
    · obtain ⟨p, ps, hs, hs'⟩ := splitAll_cons_of_ne hc a
      rw [hs']
      rw [List.cons_append, splitAll, if_neg hc, ih, hs]
      rfl

theorem splitAll_of_not_mem {p : List Char} (h : sep ∉ p) : splitAll sep p = [p] := by
  induction p with
  | nil => rfl
  | cons c p ih =>
    rw [List.mem_cons, not_or] at h
    rw [splitAll, if_neg (Ne.symm h.1), ih h.2]

/-- The pieces with the separator between them are the text. -/
theorem intercalate_splitAll (sep : Char) (cs : List Char) :
    [sep].intercalate (splitAll sep cs) = cs := by
  induction cs with
  | nil => rfl
  | cons c cs ih =>
    by_cases hc : c = sep
    · rw [splitAll, if_pos hc, List.intercalate_cons_of_ne_nil (splitAll_ne_nil sep cs), ih, hc]
      rfl
    · obtain ⟨p, ps, hs, hs'⟩ := splitAll_cons_of_ne hc cs
      rw [hs] at ih
      rw [hs', ← ih]
      cases ps with
      | nil => simp
      | cons q qs => simp [List.intercalate_cons_cons]

/-- Pieces that do not hold the separator are found again. -/
theorem splitAll_intercalate {ps : List (List Char)} (hne : ps ≠ []) (h : ∀ p ∈ ps, sep ∉ p) :
    splitAll sep ([sep].intercalate ps) = ps := by
  induction ps with
  | nil => exact absurd rfl hne
  | cons p ps ih =>
    rw [List.forall_mem_cons] at h
    cases ps with
    | nil => simpa using splitAll_of_not_mem h.1
    | cons q qs =>
      have hstep : [sep].intercalate (p :: q :: qs) = p ++ sep :: [sep].intercalate (q :: qs) := by
        simp [List.intercalate_cons_cons]
      rw [hstep, splitAll_append h.1, ih (List.cons_ne_nil q qs) h.2]

end ContractDrift.Text
