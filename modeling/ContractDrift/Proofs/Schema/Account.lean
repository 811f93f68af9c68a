/-
What a verdict says of what an evaluation finds.

The violations of a verdict are those that the evaluation finds, in the order of their places and
messages; violations that have both in common stay in the order in which they are found
(`IsAccount`).  There is one such list (`isAccount_iff`), so nothing else can be reported.
`validate_account` adds what is made of it: whether the document is valid, what is reported of it,
and how a document that has to be valid is refused.

Design notes: that ties keep their order is said for each place and message by what is left when
all other violations are taken away.
-/
import ContractDrift.Proofs.Schema.Location
import ContractDrift.Proofs.Text.Order

namespace ContractDrift.Schema

open ContractDrift.Json (Value)
open ContractDrift.Text (Precedes)

/-! ## The order of violations -/

/-- A violation stands before another in the order of their places, and at one place in that of
their messages. -/
def Violation.Before (x y : Violation) : Prop :=
  Precedes x.place y.place ∨ x.place = y.place ∧ Precedes x.message y.message

/-- Two violations have the same place and message. -/
def Violation.Ties (x y : Violation) : Prop := x.place = y.place ∧ x.message = y.message

/-- The violations of some that have a place and a message. -/
def violationsAt (place message : String) (found : List Violation) : List Violation :=
  found.filter fun x => x.place = place ∧ x.message = message

/-- A list accounts for what is found: it has just the same violations, each as often, in order,
and those of one place and message in the order in which they are found. -/
structure IsAccount (found reported : List Violation) : Prop where
  perm : reported.Perm found
  sorted : reported.Pairwise fun x y => x.Before y ∨ x.Ties y
  stable : ∀ place message,
    violationsAt place message reported = violationsAt place message found

variable {x y z : Violation} {found reported reported' : List Violation}

theorem Violation.le_iff : x.le y = true ↔ x.Before y ∨ x.Ties y := by
  rw [Violation.le]
  unfold Violation.Before Violation.Ties
  by_cases h : x.place = y.place
  · rw [if_pos h, Text.le_iff, h]
    have hirrefl : ¬ Precedes y.place y.place := fun hp => hp.asymm hp
    simp [hirrefl, or_comm]
  · rw [if_neg h, Text.le_iff]
    simp [h]

theorem Violation.Before.asymm (h : x.Before y) : ¬ (y.Before x ∨ y.Ties x) := by
  have hirrefl (a : String) : ¬ Precedes a a := fun ha => ha.asymm ha
  rcases h with hplace | ⟨hplace, hmessage⟩
  · rintro ((h | ⟨h, -⟩) | ⟨h, -⟩)
    · exact hplace.asymm h
    · exact hirrefl _ (h ▸ hplace)
    · exact hirrefl _ (h ▸ hplace)
  · rintro ((h | ⟨-, h⟩) | ⟨-, h⟩)
    · exact hirrefl _ (hplace ▸ h)
    · exact hmessage.asymm h
    · exact hirrefl _ (h ▸ hmessage)

theorem Violation.le_total (x y : Violation) : (x.le y || y.le x) = true := by
  unfold Violation.le
  by_cases h : x.place = y.place
  · rw [if_pos h, if_pos h.symm]
    exact Text.le_total x.message y.message
  · rw [if_neg h, if_neg (Ne.symm h)]
    exact Text.le_total x.place y.place

theorem Violation.le_trans (x y z : Violation) (hxy : x.le y = true) (hyz : y.le z = true) :
    x.le z = true := by
  unfold Violation.le at *
  by_cases h : x.place = y.place
  · by_cases h' : y.place = z.place
    · rw [if_pos h] at hxy
      rw [if_pos h'] at hyz
      rw [if_pos (h.trans h')]
      exact Text.le_trans _ _ _ hxy hyz
    · rw [if_neg h'] at hyz
      rwa [h, if_neg h']
  · rw [if_neg h] at hxy
    by_cases h' : y.place = z.place
    · rwa [← h', if_neg h]
    · rw [if_neg h'] at hyz
      -- the places are not the same again, since they would stand before each other
      have hne : x.place ≠ z.place := by
        intro heq
        rw [← heq] at hyz
        rcases Text.le_iff.mp hxy with he | hlt
        · exact h he
        · exact (Text.le_iff.mp hyz).elim (fun he => h he.symm) hlt.asymm
      rw [if_neg hne]
      exact Text.le_trans _ _ _ hxy hyz

/-! ## Accounts -/

theorem mem_violationsAt {place message : String} :
    x ∈ violationsAt place message found ↔
      x ∈ found ∧ x.place = place ∧ x.message = message := by
  simp [violationsAt]

/-- There is no more than one account. -/
theorem IsAccount.unique (h : IsAccount found reported) (h' : IsAccount found reported') :
    reported = reported' := by
  have hperm : reported.Perm reported' := h.perm.trans h'.perm.symm
  have hstable (place message : String) : violationsAt place message reported =
      violationsAt place message reported' :=
    (h.stable place message).trans (h'.stable place message).symm
  have hsorted := h.sorted
  have hsorted' := h'.sorted
  clear h h'
  induction reported generalizing reported' with
  | nil => exact (List.nil_perm.mp hperm).symm
  | cons x reported ih =>
    cases reported' with
    | nil => exact absurd hperm.length_eq (by simp)
    | cons y reported' =>
      rw [List.pairwise_cons] at hsorted hsorted'
      have hties : x.Ties y := by
        rcases List.mem_cons.mp (hperm.mem_iff.mp List.mem_cons_self) with rfl | hx
        · exact ⟨rfl, rfl⟩
        · rcases List.mem_cons.mp (hperm.mem_iff.mpr List.mem_cons_self) with rfl | hy
          · exact ⟨rfl, rfl⟩
          · exact (hsorted.1 y hy).resolve_left fun hbefore => hbefore.asymm (hsorted'.1 x hx)
      -- both are the first of their place and message
      have hfirst := hstable x.place x.message
      rw [violationsAt, violationsAt, List.filter_cons_of_pos (by simp),
        List.filter_cons_of_pos (by simp [hties.1, hties.2]), List.cons.injEq] at hfirst
      obtain ⟨rfl, -⟩ := hfirst
      rw [ih (List.perm_cons x |>.mp hperm) (fun place message => ?_) hsorted.2 hsorted'.2]
      have hrest := hstable place message
      rw [violationsAt, violationsAt, List.filter_cons, List.filter_cons] at hrest
      split at hrest
      · exact (List.cons.inj hrest).2
      · exact hrest

theorem isAccount_mergeSort (found : List Violation) :
    IsAccount found (found.mergeSort Violation.le) where
  perm := List.mergeSort_perm found Violation.le
  sorted := (List.pairwise_mergeSort Violation.le_trans Violation.le_total found).imp
    Violation.le_iff.mp
  stable place message := by
    -- violations of one place and message compare equal, so the sort leaves them in their order
    have hties : (violationsAt place message found).Pairwise fun x y => x.le y = true := by
      refine List.pairwise_of_forall_mem_list fun x hx y hy => ?_
      rw [mem_violationsAt] at hx hy
      exact Violation.le_iff.mpr (.inr ⟨hx.2.1.trans hy.2.1.symm, hx.2.2.trans hy.2.2.symm⟩)
    have hsublist : (violationsAt place message found).Sublist (found.mergeSort Violation.le) :=
      List.sublist_mergeSort Violation.le_trans Violation.le_total hties List.filter_sublist
    have hkept := hsublist.filter fun x => decide (x.place = place ∧ x.message = message)
    simp only [violationsAt, List.filter_filter, Bool.and_self] at hkept
    refine (hkept.eq_of_length ?_).symm
    exact ((List.mergeSort_perm found Violation.le).filter _).length_eq.symm

/-- An evaluation has one account, and it is what is sorted by place and message. -/
theorem isAccount_iff :
    IsAccount found reported ↔ reported = found.mergeSort Violation.le :=
  ⟨fun h => h.unique (isAccount_mergeSort found), fun h => h ▸ isAccount_mergeSort found⟩

/-! ## Verdicts -/

/-- What validation says where the evaluation comes to its end.  The verdict holds the account of
what is found, and nothing is found exactly if it is valid.  Then nothing is reported and nothing
is refused; otherwise the account is reported, which is not empty, and the document is refused
with one line for each violation, in the same order. -/
theorem validate_account {r : Registry} {id : String} {c : Compiled} {v : Value}
    (hget : r.get id = .ok c) (hstop : (c.findings v).stop = none) :
    ∃ verdict, r.validate id v = .ok verdict ∧ verdict.id = id ∧
      (∀ reported, IsAccount (c.findings v).violations reported ↔
        reported = verdict.violations) ∧
      (verdict.isValid = true ↔ (c.findings v).violations = []) ∧
      (verdict.isValid = true → verdict.errors? = none ∧ r.assertValid id v = .ok ()) ∧
      (verdict.isValid = false → verdict.errors? = some verdict.violations ∧
        verdict.violations ≠ [] ∧ r.assertValid id v = .error (.violated verdict) ∧
        verdict.lines = verdict.violations.map (fun x => x.place ++ " " ++ x.message) ∧
        (AssertionError.violated verdict).message =
          "Schema validation failed for " ++ id ++ ": " ++ "; ".intercalate verdict.lines) := by
  have hvalidate := Registry.validate_eq_ok_iff.mpr ⟨c, hget, hstop, rfl⟩
  refine ⟨_, hvalidate, rfl, fun reported => isAccount_iff, ?_, fun hvalid => ?_,
    fun hinvalid => ?_⟩
  · rw [Verdict.isValid, List.isEmpty_iff, ← List.length_eq_zero_iff, List.length_mergeSort,
      List.length_eq_zero_iff]
  · rw [Verdict.errors?, if_pos hvalid, Registry.assertValid, hvalidate]
    exact ⟨rfl, if_pos hvalid⟩
  -- an invalid verdict is reported with its violations, of which there is one at least
  · have hnot := Bool.eq_false_iff.mp hinvalid
    rw [Verdict.errors?, if_neg hnot, Registry.assertValid, hvalidate]
    exact ⟨rfl, fun hnil => hnot (List.isEmpty_iff.mpr hnil), if_neg hnot, rfl, rfl⟩

/-- A document with the same number at a key that holds a slash, and deeper. -/
def twinDocument : Value := .object [("a/b", .int 1), ("a", .object [("b", .int 1)])]

/-- Two violations with the same place and message are both kept, as they are found. -/
theorem validate_account_twins :
    ∃ verdict, slashRegistry.validate "s" twinDocument = .ok verdict ∧
      verdict.errors? = some verdict.violations ∧
      verdict.violations.map (·.path) = [[.key "a/b"], [.key "a", .key "b"]] ∧
      (verdict.violations.map fun x => (x.place, x.message)) =
        [("/a/b", "1 is not of type 'string'"), ("/a/b", "1 is not of type 'string'")] ∧
      slashRegistry.assertValid "s" twinDocument = .error (.violated verdict) := by
  have hget : slashRegistry.get "s" = .ok (Compiled.ofDocument slashSchema) := rfl
  have hstop : ((Compiled.ofDocument slashSchema).findings twinDocument).stop = none := by
    decide +kernel
  have hfound : ((Compiled.ofDocument slashSchema).findings twinDocument).violations.map
      (fun x => (x.path, x.place, x.message)) =
        [([.key "a/b"], "/a/b", "1 is not of type 'string'"),
          ([.key "a", .key "b"], "/a/b", "1 is not of type 'string'")] := by
    decide +kernel
  obtain ⟨verdict, hvalidate, -, haccount, hvalid, -, hinvalid⟩ := validate_account hget hstop
  generalize ((Compiled.ofDocument slashSchema).findings twinDocument).violations = found at *
  obtain ⟨x, rest, rfl, hx, hrest⟩ := List.map_eq_cons_iff.mp hfound
  obtain ⟨y, tail, rfl, hy, hnil⟩ := List.map_eq_cons_iff.mp hrest
  obtain rfl := List.map_eq_nil_iff.mp hnil
  simp only [Prod.mk.injEq] at hx hy
  -- the two are an account of themselves
  have hties : x.Ties y := ⟨hx.2.1.trans hy.2.1.symm, hx.2.2.trans hy.2.2.symm⟩
  have hself : [x, y] = verdict.violations :=
    (haccount [x, y]).mp ⟨.refl _, List.pairwise_pair.mpr (.inr hties), fun _ _ => rfl⟩
  have hfalse : verdict.isValid = false := by
    rw [Bool.eq_false_iff, ne_eq, hvalid]
    exact List.cons_ne_nil _ _
  obtain ⟨herrors, -, hassert, -⟩ := hinvalid hfalse
  refine ⟨verdict, hvalidate, herrors, ?_, ?_, hassert⟩
  · simp [← hself, hx, hy]
  · simp [← hself, hx, hy]

end ContractDrift.Schema
