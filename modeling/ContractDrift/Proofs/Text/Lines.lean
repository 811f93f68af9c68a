/-
The lines of a text.

Which characters end a line depends on who reads it: a terminal knows the line feed, and others
know more.  `EndsLines` says what all of them have in common, and `linesOf` divides a text at the
ends that one of them knows.  Texts put together line by line have the lines of their parts
(`linesOf_intercalate`); what is written in front of a text without ending a line goes to its first
line (`linesOf_append_left`), and what is written behind it to its last (`linesOf_append_right`).

Design notes: an end is one character.  A reader for whom a carriage return and a line feed are one
end sees an empty line less.
-/
import Mathlib.Data.List.Basic

namespace ContractDrift.Text

/-- Characters that end lines: the line feed is one, and no printed character of ASCII is. -/
structure EndsLines (ends : Char → Bool) : Prop where
  lineFeed : ends '\n' = true
  printed : ∀ c : Char, 0x20 ≤ c.toNat → c.toNat < 0x7F → ends c = false

/-- The lines of a text. -/
def linesOf (ends : Char → Bool) (text : String) : List String :=
  (text.toList.splitOnP ends).map String.ofList

/-- A text that ends no line. -/
def IsInLine (ends : Char → Bool) (text : String) : Prop := ∀ c ∈ text.toList, ends c = false

instance (ends : Char → Bool) (text : String) : Decidable (IsInLine ends text) :=
  List.decidableBAll (fun c => ends c = false) text.toList

/-- A text of printed characters of ASCII. -/
def IsPrinted (text : String) : Prop := ∀ c ∈ text.toList, 0x20 ≤ c.toNat ∧ c.toNat < 0x7F

instance (text : String) : Decidable (IsPrinted text) :=
  List.decidableBAll (fun c : Char => 0x20 ≤ c.toNat ∧ c.toNat < 0x7F) text.toList

variable {ends : Char → Bool} {text : String}

theorem IsPrinted.isInLine (h : IsPrinted text) (hends : EndsLines ends) : IsInLine ends text :=
  fun c hc => hends.printed c (h c hc).1 (h c hc).2

theorem IsPrinted.append {a b : String} (ha : IsPrinted a) (hb : IsPrinted b) :
    IsPrinted (a ++ b) := by
  intro c hc
  rw [String.toList_append] at hc
  exact (List.mem_append.mp hc).elim (ha c) (hb c)

theorem isInLine_append {a b : String} (ha : IsInLine ends a) (hb : IsInLine ends b) :
    IsInLine ends (a ++ b) := by
  intro c hc
  rw [String.toList_append] at hc
  exact (List.mem_append.mp hc).elim (ha c) (hb c)

theorem linesOf_of_isInLine (h : IsInLine ends text) : linesOf ends text = [text] := by
  rw [linesOf, List.splitOnP_eq_singleton h, List.map_singleton, String.ofList_toList]

theorem linesOf_lineFeed (hends : EndsLines ends) (a b : String) :
    linesOf ends (a ++ ("\n" ++ b)) = linesOf ends a ++ linesOf ends b := by
  have hlist : (a ++ ("\n" ++ b)).toList = a.toList ++ '\n' :: b.toList := by simp
  rw [linesOf, hlist, List.splitOnP_append_cons _ _ hends.lineFeed, List.map_append]
  rfl

/-- A text that is put together line by line has the lines of its parts. -/
theorem linesOf_intercalate (hends : EndsLines ends) {parts : List String} (hne : parts ≠ []) :
    linesOf ends ("\n".intercalate parts) = parts.flatMap (linesOf ends) := by
  induction parts with
  | nil => exact absurd rfl hne
  | cons p ps ih =>
    cases ps with
    | nil => simp
    | cons q qs =>
      rw [String.intercalate_cons_cons, List.flatMap_cons, ← ih (List.cons_ne_nil q qs),
        String.append_assoc, linesOf_lineFeed hends]

/-- What stands in front of a text without ending a line stands in front of its first line. -/
theorem linesOf_append_left {pre : String} (h : IsInLine ends pre) (text : String) :
    ∃ line rest, linesOf ends text = line :: rest ∧
      linesOf ends (pre ++ text) = (pre ++ line) :: rest := by
  -- by induction on the characters in front: none of them ends a line
  have key : ∀ cs : List Char, (∀ c ∈ cs, ends c = false) → ∀ (ds p : List Char) ps,
      ds.splitOnP ends = p :: ps → (cs ++ ds).splitOnP ends = (cs ++ p) :: ps := by
    intro cs hcs ds p ps hds
    induction cs with
    | nil => exact hds
    | cons c cs ih =>
      rw [List.forall_mem_cons] at hcs
      rw [List.cons_append, List.splitOnP_cons_eq_if_modifyHead, hcs.1, ih hcs.2]
      rfl
  obtain ⟨p, ps, hp⟩ := List.exists_cons_of_ne_nil (List.splitOnP_ne_nil ends text.toList)
  refine ⟨String.ofList p, ps.map String.ofList, ?_, ?_⟩
  · rw [linesOf, hp, List.map_cons]
  · rw [linesOf, String.toList_append, key _ h _ _ _ hp, List.map_cons, String.ofList_append,
      String.ofList_toList]

/-- What stands behind a text without ending a line stands behind its last line. -/
theorem linesOf_append_right {post : String} (h : IsInLine ends post) (text : String) :
    ∃ rest line, linesOf ends text = rest ++ [line] ∧
      linesOf ends (text ++ post) = rest ++ [line ++ post] := by
  -- by induction on the text: an end in it leaves the last line where it is
  have key : ∀ cs : List Char, ∃ ps p, cs.splitOnP ends = ps ++ [p] ∧
      (cs ++ post.toList).splitOnP ends = ps ++ [p ++ post.toList] := by
    intro cs
    induction cs with
    | nil =>
      exact ⟨[], [], List.splitOnP_nil, List.splitOnP_eq_singleton h⟩
    | cons c cs ih =>
      obtain ⟨ps, p, hcs, hpost⟩ := ih
      rw [List.cons_append, List.splitOnP_cons_eq_if_modifyHead,
        List.splitOnP_cons_eq_if_modifyHead, hcs, hpost]
      by_cases hc : ends c = true
      · rw [if_pos hc, if_pos hc]
        exact ⟨[] :: ps, p, rfl, rfl⟩
      · rw [if_neg hc, if_neg hc]
        cases ps with
        | nil => exact ⟨[], c :: p, rfl, rfl⟩
        | cons q qs => exact ⟨(c :: q) :: qs, p, rfl, rfl⟩
  obtain ⟨ps, p, htext, hpost⟩ := key text.toList
  refine ⟨ps.map String.ofList, String.ofList p, ?_, ?_⟩
  · rw [linesOf, htext, List.map_append, List.map_singleton]
  · rw [linesOf, String.toList_append, hpost, List.map_append, List.map_singleton,
      String.ofList_append, String.ofList_toList]

end ContractDrift.Text
