/-
Texts and integers are read from JSON as they were written.

`readText` takes what was written for one character off the front and answers this character
(`readText_writtenChar`), so a whole text is read back up to its closing quote
(`readText_written`).  An integer is read back from its digits, if there are no more of them than
an integer may have (`readNumber_toString`).
-/
import Mathlib.Algebra.Group.Nat.Defs
import Mathlib.Data.List.Basic
import ContractDrift.Json.Reader
import ContractDrift.Json.Writer

namespace ContractDrift.Json

open ContractDrift.Text (hexDigit hexDigits hexValue?)

/-! ## Escapes -/

theorem hexValue?_hexDigit : ∀ d < 16, hexValue? (hexDigit d) = some d := by
  decide

theorem fourHex?_hexDigits {n : Nat} (h : n < 0x10000) (r : List Char) :
    fourHex? (hexDigits 4 n ++ r) = some (n, r) := by
  have hvalue (m : Nat) : hexValue? (hexDigit (m % 16)) = some (m % 16) :=
    hexValue?_hexDigit _ (Nat.mod_lt _ (by decide))
  simp only [hexDigits, List.nil_append, List.cons_append, fourHex?, hvalue]
  show some (_, r) = some (n, r)
  congr 2
  omega

theorem readUnicodeEscape_hexDigits {n : Nat} (h : n < 0xD800) (u : Nat) {r : List Char}
    (hr : r ≠ []) : readUnicodeEscape u (hexDigits 4 n ++ r) = .ok (Char.ofNat n, r) := by
  have hlength : ¬ (hexDigits 4 n ++ r).length < 5 := by
    have := List.length_pos_iff.mpr hr
    simp [hexDigits]
    omega
  have hhigh : ¬ (0xD800 ≤ n ∧ n < 0xDC00) := by omega
  have hsurrogate : ¬ (0xD800 ≤ n ∧ n < 0xE000) := by omega
  rw [readUnicodeEscape, if_neg hlength, fourHex?_hexDigits (by omega)]
  simp only [if_neg hhigh, charOfCode, if_neg hsurrogate]

/-! ## Texts -/

/-- A character that is neither a mark of JSON nor a control character is written as it is. -/
theorem writtenChar_plain {c : Char} (hquote : c ≠ '"') (hslash : c ≠ '\\')
    (h : ¬ c.toNat < 0x20) : writtenChar c = [c] := by
  unfold writtenChar
  split <;> first | contradiction | rw [if_neg h]

theorem readText_writtenChar (start fuel : Nat) (acc : List Char) (c : Char) {r : List Char}
    (hr : r ≠ []) :
    readText start (fuel + 1) acc (writtenChar c ++ r) = readText start fuel (c :: acc) r := by
  by_cases hquote : c = '"'
  · subst hquote
    rfl
  by_cases hslash : c = '\\'
  · subst hslash
    rfl
  by_cases hcontrol : c.toNat < 0x20
  · -- the control characters have a letter each or the digits of their code point
    unfold writtenChar
    split <;> try rfl
    have hread := readUnicodeEscape_hexDigits (show c.toNat < 0xD800 by omega)
      ('u' :: (hexDigits 4 c.toNat ++ r)).length hr
    rw [Char.ofNat_toNat] at hread
    rw [if_pos hcontrol]
    change (readUnicodeEscape ('u' :: (hexDigits 4 c.toNat ++ r)).length
      (hexDigits 4 c.toNat ++ r) >>= fun p => readText start fuel (p.1 :: acc) p.2) = _
    rw [hread]
    rfl
  · rw [writtenChar_plain hquote hslash hcontrol, List.singleton_append, readText.eq_def]
    simp only [if_neg hquote, if_neg hslash, if_neg hcontrol]

/-- A written text is read back, and what follows its closing quote is left. -/
theorem readText_written (s : List Char) (start : Nat) {fuel : Nat} (hfuel : s.length < fuel)
    (acc r : List Char) :
    readText start fuel acc (s.flatMap writtenChar ++ '"' :: r) =
      .ok (String.ofList (acc.reverse ++ s), r) := by
  induction s generalizing fuel acc with
  | nil =>
    obtain ⟨n, rfl⟩ : ∃ n, fuel = n + 1 := ⟨fuel - 1, by omega⟩
    simp [readText]
  | cons c s ih =>
    obtain ⟨n, rfl⟩ : ∃ n, fuel = n + 1 := ⟨fuel - 1, by omega⟩
    rw [List.flatMap_cons, List.append_assoc, readText_writtenChar _ _ _ _ (by simp),
      ih (by simpa using hfuel)]
    simp

theorem length_le_length_written (s : List Char) : s.length ≤ (s.flatMap writtenChar).length := by
  induction s with
  | nil => exact Nat.le_refl _
  | cons c s ih =>
    have hc : 1 ≤ (writtenChar c).length := by
      unfold writtenChar
      split <;> try (exact Nat.le_add_left _ _)
      split <;> simp
    rw [List.flatMap_cons, List.length_append, List.length_cons]
    omega

theorem toList_writeText (s : String) :
    (writeText s).toList = '"' :: s.toList.flatMap writtenChar ++ ['"'] := by
  rw [writeText, String.toList_ofList]

/-! ## Integers -/

/-- What follows a number does not carry it on. -/
def EndsNumber (r : List Char) : Prop :=
  ∀ c ∈ r.head?, isDigit c = false ∧ c ≠ '.' ∧ c ≠ 'e' ∧ c ≠ 'E'

/-- The digits of a number start with no zero, unless it is zero itself. -/
theorem exists_toDigits_cons {n : Nat} (h : 0 < n) :
    ∃ c cs, Nat.toDigits 10 n = c :: cs ∧ c ≠ '0' := by
  induction n using Nat.strongRecOn with
  | ind n ih =>
    rw [Nat.toDigits_eq_if (by decide)]
    by_cases hsmall : n < 10
    · rw [if_pos hsmall]
      refine ⟨_, _, rfl, fun hzero => ?_⟩
      have := Nat.digitChar_eq_zero.mp hzero
      omega
    · obtain ⟨c, cs, hcs, hc⟩ := ih (n / 10) (by omega) (by omega)
      rw [if_neg hsmall, hcs]
      exact ⟨c, _, rfl, hc⟩

theorem takeWhole_toDigits (n : Nat) {r : List Char} (hr : EndsNumber r) :
    takeWhole (Nat.toDigits 10 n ++ r) = some (Nat.toDigits 10 n, r) := by
  have hdigits : ∀ c ∈ Nat.toDigits 10 n, isDigit c = true := fun c hc =>
    Nat.isDigit_of_mem_toDigits (by omega) (by omega) hc
  have hrest : r.takeWhile isDigit = [] ∧ r.dropWhile isDigit = r := by
    cases r with
    | nil => exact ⟨rfl, rfl⟩
    | cons c r => simp [(hr c (by simp)).1]
  -- a number does not start with a zero unless it is zero
  rcases Nat.eq_zero_or_pos n with rfl | hn
  · rfl
  obtain ⟨c, cs, hcs, hc⟩ := exists_toDigits_cons hn
  rw [hcs] at hdigits ⊢
  rw [List.cons_append, takeWhole.eq_def]
  simp only [hdigits c List.mem_cons_self, if_true]
  rw [← List.cons_append, List.takeWhile_append_of_pos hdigits,
    List.dropWhile_append_of_pos hdigits, hrest.1, hrest.2, List.append_nil]

theorem digitsValue_toDigits (n : Nat) : digitsValue (Nat.toDigits 10 n) = n := by
  have hvalue := Nat.ofDigitChars_ten_toDigits (n := n)
  simp only [Nat.ofDigitChars_eq_foldl, Nat.mul_comm 10] at hvalue
  exact hvalue

theorem takeFraction_of_endsNumber {r : List Char} (hr : EndsNumber r) : takeFraction r = none := by
  unfold takeFraction
  split
  · exact absurd rfl (hr '.' (by simp)).2.1
  · rfl

theorem takeExponent_of_endsNumber {r : List Char} (hr : EndsNumber r) : takeExponent r = none := by
  cases r with
  | nil => rfl
  | cons c r =>
    obtain ⟨-, -, h1, h2⟩ := hr c (by simp)
    unfold takeExponent
    simp only [h1, h2, or_self, if_false]

/-- The characters of an integer: its digits, with a minus in front if it is negative. -/
theorem toList_toString_int (n : Int) :
    (toString n).toList = (if 0 ≤ n then [] else ['-']) ++ Nat.toDigits 10 n.natAbs := by
  show n.repr.toList = _
  rw [Int.repr_eq_if]
  by_cases h : 0 ≤ n
  · rw [if_pos h, if_pos h, Nat.toList_repr, show n.toNat = n.natAbs by omega, List.nil_append]
  · rw [if_neg h, if_neg h, String.toList_append, Nat.toList_repr,
      show (-n).toNat = n.natAbs by omega]
    rfl

/-- A sign in front of a number is told from its digits. -/
theorem sign_toDigits (n : Nat) (r cs : List Char) : Nat.toDigits 10 n ++ r ≠ '-' :: cs := by
  cases hd : Nat.toDigits 10 n with
  | nil => exact absurd hd Nat.toDigits_ne_nil
  | cons c ds =>
    intro h
    have hdigit : c.isDigit = true :=
      Nat.isDigit_of_mem_toDigits (by decide) (by decide) (hd ▸ List.mem_cons_self)
    rw [(List.cons.inj h).1] at hdigit
    exact absurd hdigit (by decide)

theorem readNumber_toString {n : Int} (h : n.natAbs < 10 ^ digitLimit) {r : List Char}
    (hr : EndsNumber r) : readNumber ((toString n).toList ++ r) = .ok (.int n, r) := by
  have hlength : ¬ digitLimit < (Nat.toDigits 10 n.natAbs).length :=
    Nat.not_lt.mpr ((Nat.length_toDigits_le_iff (by decide) (by decide)).mpr h)
  rw [toList_toString_int, readNumber.eq_def]
  -- the sign is taken off first
  by_cases hn : 0 ≤ n
  · have hvalue : Decimal.signed false n.natAbs = n := Int.natAbs_of_nonneg hn
    rw [if_pos hn, List.nil_append]
    split
    · rename_i hsign
      split at hsign
      · rename_i cs hcs
        exact absurd hcs (sign_toDigits _ _ cs)
      · obtain ⟨rfl, rfl⟩ := Prod.mk.inj hsign
        simp only [takeWhole_toDigits _ hr, takeFraction_of_endsNumber hr,
          takeExponent_of_endsNumber hr, if_neg hlength, digitsValue_toDigits, hvalue]
  · have hvalue : Decimal.signed true n.natAbs = n := by
      show -(n.natAbs : Int) = n
      omega
    rw [if_neg hn, List.append_assoc, List.singleton_append]
    simp only [takeWhole_toDigits _ hr, takeFraction_of_endsNumber hr,
      takeExponent_of_endsNumber hr, if_neg hlength, digitsValue_toDigits, hvalue]

end ContractDrift.Json
