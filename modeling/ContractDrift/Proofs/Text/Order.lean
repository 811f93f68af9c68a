/-
Texts in order, each one once.

`distinct` keeps the first place of each text: its members are those of the list, none comes
twice, and they stand in the order of their first places.  `sort` puts texts in the order of
their code points.
-/
import Mathlib.Data.List.Nodup
import ContractDrift.Text.Search

namespace ContractDrift.Text

theorem mem_distinct {a : String} {xs : List String} : a ∈ distinct xs ↔ a ∈ xs := by
  induction xs with
  | nil => exact Iff.rfl
  | cons x xs ih =>
    rw [distinct, List.mem_cons, List.mem_cons, List.mem_filter, ih]
    by_cases h : a = x <;> simp [h]

theorem nodup_distinct (xs : List String) : (distinct xs).Nodup := by
  induction xs with
  | nil => exact List.nodup_nil
  | cons x xs ih =>
    rw [distinct, List.nodup_cons]
    exact ⟨by simp, ih.filter _⟩

/-- The texts stand in the order of their first places in the list. -/
theorem pairwise_distinct (xs : List String) :
    (distinct xs).Pairwise fun a b => xs.idxOf a < xs.idxOf b := by
  induction xs with
  | nil => exact .nil
  | cons x xs ih =>
    rw [distinct, List.pairwise_cons]
    -- the copies of the first member are left out, and all others come after it
    have hlater {a : String} (ha : a ∈ (distinct xs).filter (· != x)) :
        (x :: xs).idxOf a = xs.idxOf a + 1 := by
      have hne : a ≠ x := by simpa using (List.mem_filter.mp ha).2
      exact List.idxOf_cons_ne xs (Ne.symm hne)
    refine ⟨fun a ha => ?_, ?_⟩
    · rw [hlater ha, List.idxOf_cons_self]
      omega
    · refine (ih.filter _).imp_of_mem fun ha hb hab => ?_
      rw [hlater ha, hlater hb]
      omega

theorem distinct_filter (p : String → Bool) (xs : List String) :
    distinct (xs.filter p) = (distinct xs).filter p := by
  induction xs with
  | nil => rfl
  | cons x xs ih =>
    by_cases h : p x = true
    · rw [List.filter_cons_of_pos h, distinct, distinct, List.filter_cons_of_pos h, ih,
        List.filter_filter, List.filter_filter]
      simp only [Bool.and_comm]
    · rw [List.filter_cons_of_neg h, distinct, List.filter_cons_of_neg h, ih, List.filter_filter]
      refine List.filter_congr fun a ha => ?_
      by_cases hax : a = x
      · rw [hax]
        simp [h]
      · simp [hax]

/-! ## The order of code points -/

/-- A text stands before another in the order of code points. -/
def Precedes (a b : String) : Prop :=
  List.Lex (fun c d : Char => c.toNat < d.toNat) a.toList b.toList

theorem Precedes.asymm {a b : String} (h : Precedes a b) : ¬ Precedes b a := by
  unfold Precedes at h ⊢
  generalize a.toList = as at h ⊢
  generalize b.toList = bs at h ⊢
  induction h with
  | nil => exact fun h => nomatch h
  | cons _ ih =>
    intro h
    cases h with
    | cons h => exact ih h
    | rel h => exact Nat.lt_irrefl _ h
  | rel hlt =>
    intro h
    cases h with
    | cons => exact Nat.lt_irrefl _ hlt
    | rel h => exact Nat.lt_asymm hlt h

theorem leChars_trans {as bs cs : List Char} (hab : leChars as bs = true)
    (hbc : leChars bs cs = true) : leChars as cs = true := by
  induction as generalizing bs cs with
  | nil => rfl
  | cons a as ih =>
    cases bs with
    | nil => cases hab
    | cons b bs =>
      cases cs with
      | nil => cases hbc
      | cons c cs =>
        simp only [leChars] at hab hbc ⊢
        grind

theorem leChars_total (as bs : List Char) : leChars as bs = true ∨ leChars bs as = true := by
  induction as generalizing bs with
  | nil => exact Or.inl rfl
  | cons a as ih =>
    cases bs with
    | nil => exact Or.inr rfl
    | cons b bs =>
      by_cases h : a = b
      · subst h
        simpa [leChars] using ih bs
      · have hne : a.toNat ≠ b.toNat := fun e => h (Char.toNat_inj.mp e)
        rw [leChars, leChars, if_neg h, if_neg (Ne.symm h), decide_eq_true_iff, decide_eq_true_iff]
        omega

theorem le_refl (a : String) : le a a = true :=
  (leChars_total a.toList a.toList).elim id id

theorem eq_or_lex_of_leChars {as bs : List Char} (h : leChars as bs = true) :
    as = bs ∨ List.Lex (fun c d : Char => c.toNat < d.toNat) as bs := by
  induction as generalizing bs with
  | nil =>
    cases bs with
    | nil => exact Or.inl rfl
    | cons b bs => exact Or.inr List.Lex.nil
  | cons a as ih =>
    cases bs with
    | nil => cases h
    | cons b bs =>
      rw [leChars] at h
      split at h
      · rename_i hab
        subst hab
        rcases ih h with rfl | hlex
        · exact Or.inl rfl
        · exact Or.inr (List.Lex.cons hlex)
      · exact Or.inr (List.Lex.rel (of_decide_eq_true h))

theorem le_iff {a b : String} : le a b = true ↔ a = b ∨ Precedes a b := by
  constructor
  · intro h
    exact (eq_or_lex_of_leChars h).imp_left String.toList_inj.mp
  · rintro (rfl | h)
    · exact le_refl a
    · rcases leChars_total a.toList b.toList with hab | hba
      · exact hab
      · rcases eq_or_lex_of_leChars hba with heq | hlex
        · rw [String.toList_inj.mp heq]
          exact le_refl a
        · exact absurd hlex h.asymm

theorem le_trans (a b c : String) (hab : le a b = true) (hbc : le b c = true) : le a c = true :=
  leChars_trans hab hbc

theorem le_total (a b : String) : (le a b || le b a) = true :=
  Bool.or_eq_true_iff.mpr (leChars_total a.toList b.toList)

theorem mem_sort {a : String} {xs : List String} : a ∈ sort xs ↔ a ∈ xs :=
  (List.mergeSort_perm xs le).mem_iff

/-- Texts that differ stand one before the other when they are sorted. -/
theorem pairwise_sort {xs : List String} (h : xs.Nodup) : (sort xs).Pairwise Precedes := by
  have hsorted : (sort xs).Pairwise fun a b => le a b = true :=
    List.pairwise_mergeSort le_trans le_total xs
  have hnodup : (sort xs).Nodup := (List.mergeSort_perm xs le).nodup_iff.mpr h
  exact hsorted.imp₂ (fun a b hab hne => (le_iff.mp hab).resolve_left hne) hnodup

theorem nodup_of_pairwise_precedes {xs : List String} (h : xs.Pairwise Precedes) : xs.Nodup := by
  refine h.imp fun hab heq => ?_
  rw [heq] at hab
  exact hab.asymm hab

/-- Texts that stand in order are determined by what they are. -/
theorem eq_of_pairwise_precedes {xs ys : List String} (hxs : xs.Pairwise Precedes)
    (hys : ys.Pairwise Precedes) (h : ∀ a, a ∈ xs ↔ a ∈ ys) : xs = ys := by
  have hperm : xs.Perm ys := (List.perm_ext_iff_of_nodup (nodup_of_pairwise_precedes hxs)
    (nodup_of_pairwise_precedes hys)).mpr h
  exact hperm.eq_of_pairwise (fun a b _ _ hab hba => absurd hba hab.asymm) hxs hys

end ContractDrift.Text
