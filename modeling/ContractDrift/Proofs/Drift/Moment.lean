/-
Numbers in the text of a moment.

A number that is padded with zeros is read back from its digits (`ofDigitChars_padded`), and one
that has no more digits than its width fills the width (`length_padded`).  So a field of a known
width can be cut off from what follows it (`padded_append_inj`).
-/
import ContractDrift.Drift.Moment
import ContractDrift.Proofs.Json.WrittenValue

namespace ContractDrift.Drift

variable {width n n' : Nat}

theorem toList_padded (width n : Nat) :
    (padded width n).toList =
      List.replicate (width - (Nat.toDigits 10 n).length) '0' ++ Nat.toDigits 10 n := by
  have hzeros (k : Nat) : (Text.repeated "0" k).toList = List.replicate k '0' := by
    rw [Json.toList_repeated]
    simp
  rw [padded, String.toList_append, hzeros, Nat.toString_eq_repr, Nat.toList_repr,
    ← String.length_toList, Nat.toList_repr]

theorem isDigit_of_mem_padded (width n : Nat) :
    ∀ c ∈ (padded width n).toList, c.isDigit = true := by
  intro c hc
  rw [toList_padded, List.mem_append] at hc
  rcases hc with hc | hc
  · obtain rfl := List.eq_of_mem_replicate hc
    rfl
  · exact Nat.isDigit_of_mem_toDigits (by decide) (by decide) hc

theorem width_le_length_padded (width n : Nat) : width ≤ (padded width n).toList.length := by
  rw [toList_padded, List.length_append, List.length_replicate]
  omega

/-- A number that has no more digits than its width fills the width. -/
theorem length_padded (hwidth : 0 < width) (hn : n < 10 ^ width) :
    (padded width n).toList.length = width := by
  have hdigits : (Nat.toDigits 10 n).length ≤ width :=
    (Nat.length_toDigits_le_iff (by decide) hwidth).mpr hn
  rw [toList_padded, List.length_append, List.length_replicate]
  omega

/-- The zeros in front of a number do not count. -/
theorem ofDigitChars_padded (width n : Nat) :
    Nat.ofDigitChars 10 (padded width n).toList 0 = n := by
  have hzeros (k : Nat) : Nat.ofDigitChars 10 (List.replicate k '0') 0 = 0 := by
    induction k with
    | zero => rfl
    | succ k ih =>
      rw [List.replicate_succ, Nat.ofDigitChars_cons]
      exact ih
  rw [toList_padded, Nat.ofDigitChars_append, hzeros]
  exact Nat.ofDigitChars_toDigits (by decide) (by decide)

/-- A field of a known width is cut off from what follows it, and read. -/
theorem padded_append_inj {r r' : List Char} (hwidth : 0 < width) (hn : n < 10 ^ width)
    (hn' : n' < 10 ^ width) (h : (padded width n).toList ++ r = (padded width n').toList ++ r') :
    n = n' ∧ r = r' := by
  have hlength : (padded width n).toList.length = (padded width n').toList.length := by
    rw [length_padded hwidth hn, length_padded hwidth hn']
  obtain ⟨hdigits, hrest⟩ := List.append_inj h hlength
  have hvalue := congrArg (Nat.ofDigitChars 10 · 0) hdigits
  simp only [ofDigitChars_padded] at hvalue
  exact ⟨hvalue, hrest⟩

end ContractDrift.Drift
