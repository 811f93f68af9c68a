/-
Names in markup are scanned as they are written.

`NameClass.isName` says which characters are a name without a colon, and
`NameClass.IsQualified` adds at most one prefix.  A scanner that meets such a name takes
all of it and stops at the next character, if that cannot continue a name
(`NameClass.stopsAt`):

* `scanName_append`, `scanQualifiedName_append` — in start tags and references;
* `scanEndTag_append` — in end tags.
-/
import ContractDrift.Xml.Scan

namespace ContractDrift.Xml

@[simp]
theorem glyphs_nil : glyphs [] = [] := rfl

@[simp]
theorem glyphs_cons (c : Char) (cs : List Char) : glyphs (c :: cs) = .char c :: glyphs cs := rfl

@[simp]
theorem glyphs_append (a b : List Char) : glyphs (a ++ b) = glyphs a ++ glyphs b :=
  List.map_append

@[simp]
theorem length_glyphs (cs : List Char) : (glyphs cs).length = cs.length := List.length_map _

namespace NameClass

/-- Whether characters are a name without a colon. -/
def isName (k : NameClass) : List Char → Bool
  | [] => false
  | c :: r => k.starts c && r.all k.continues

/-- A name that has at most one prefix. -/
inductive IsQualified (k : NameClass) : List Char → Prop where
  | plain {n : List Char} : k.isName n = true → k.IsQualified n
  | prefixed {p n : List Char} : k.isName p = true → k.isName n = true →
      k.IsQualified (p ++ ':' :: n)

/-- Whether a name ends where this character stands. -/
def stopsAt (k : NameClass) (s : Char) : Bool :=
  !k.continues s && decide (s.toNat < 0x80) && s != ':'

variable {k : NameClass} {s : Char}

theorem stopsAt_iff : k.stopsAt s = true ↔ k.continues s = false ∧ s.toNat < 0x80 ∧ s ≠ ':' := by
  simp [stopsAt, and_assoc]

theorem continues_colon (k : NameClass) : k.continues ':' = false := by
  cases k <;> rfl

theorem isName_iff {n : List Char} :
    k.isName n = true ↔ ∃ c r, n = c :: r ∧ k.starts c = true ∧ ∀ x ∈ r, k.continues x = true := by
  cases n with
  | nil => simp [isName]
  | cons c r =>
    simp only [isName, Bool.and_eq_true, List.all_eq_true]
    constructor
    · rintro ⟨hc, hr⟩
      exact ⟨c, r, rfl, hc, hr⟩
    · rintro ⟨_, _, he, hc, hr⟩
      obtain ⟨rfl, rfl⟩ := List.cons.inj he
      exact ⟨hc, hr⟩

/-- A character that starts a name is none that does not. -/
theorem ne_of_starts {c x : Char} (hc : k.starts c = true) (hx : k.starts x = false) : c ≠ x := by
  rintro rfl
  rw [hc] at hx
  exact absurd hx (by decide)

theorem continues_of_mem_isName {n : List Char} (h : k.isName n = true) {x : Char} (hx : x ∈ n) :
    k.continues x = true := by
  obtain ⟨c, r, rfl, hc, hr⟩ := isName_iff.mp h
  rcases List.mem_cons.mp hx with rfl | hx
  · exact continues_of_starts hc
  · exact hr x hx

theorem isName_append {n m : List Char} (hn : k.isName n = true)
    (hm : ∀ x ∈ m, k.continues x = true) : k.isName (n ++ m) = true := by
  obtain ⟨c, r, rfl, hc, hr⟩ := isName_iff.mp hn
  refine isName_iff.mpr ⟨c, r ++ m, rfl, hc, fun x hx => ?_⟩
  rcases List.mem_append.mp hx with hx | hx
  · exact hr x hx
  · exact hm x hx

theorem colon_not_mem_isName {n : List Char} (h : k.isName n = true) : ':' ∉ n := by
  intro hmem
  have := continues_of_mem_isName h hmem
  rw [continues_colon] at this
  exact absurd this Bool.false_ne_true

end NameClass

variable {k : NameClass} {s : Char}

/-! ## Names in start tags and references -/

theorem scanNameRest_append {cs : List Char} (hcs : ∀ x ∈ cs, k.continues x = true)
    (hs : k.continues s = false) (hs' : s.toNat < 0x80) (acc : List Char) (r : Source) :
    scanNameRest k acc (glyphs cs ++ .char s :: r) = .ok (cs.reverse ++ acc, .char s :: r) := by
  induction cs generalizing acc with
  | nil => simp [scanNameRest, hs, hs']
  | cons c cs ih =>
    have hc := hcs c List.mem_cons_self
    rw [glyphs_cons, List.cons_append, scanNameRest, if_pos hc,
      ih (fun x hx => hcs x (List.mem_cons_of_mem c hx))]
    simp

theorem scanName_append {n : List Char} (hn : k.isName n = true)
    (hs : k.continues s = false) (hs' : s.toNat < 0x80) (r : Source) :
    scanName k (glyphs n ++ .char s :: r) = .ok (n, .char s :: r) := by
  obtain ⟨c, cs, rfl, hc, hcs⟩ := NameClass.isName_iff.mp hn
  simp [scanName, scanNameStart, hc, scanNameRest_append hcs hs hs', bind, Except.bind, pure,
    Except.pure]

theorem scanQualifiedName_append {n : List Char} (hn : k.IsQualified n)
    (hs : k.stopsAt s = true) (r : Source) :
    scanQualifiedName k (glyphs n ++ .char s :: r) = .ok (n, .char s :: r) := by
  obtain ⟨hs1, hs2, hs3⟩ := NameClass.stopsAt_iff.mp hs
  cases hn with
  | plain hn =>
    obtain ⟨c, cs, rfl, hc, hcs⟩ := NameClass.isName_iff.mp hn
    simp [scanQualifiedName, scanNameStart, hc, scanNameRest_append hcs hs1 hs2, bind,
      Except.bind, pure, Except.pure, hs3]
  | @prefixed p n hp hn =>
    obtain ⟨c, cs, rfl, hc, hcs⟩ := NameClass.isName_iff.mp hp
    obtain ⟨d, ds, rfl, hd, hds⟩ := NameClass.isName_iff.mp hn
    -- the first part ends at the colon, and the second where the whole name does
    have hcolon := k.continues_colon
    simp [scanQualifiedName, scanNameStart, hc, hd,
      scanNameRest_append hcs hcolon (by decide), scanNameRest_append hds hs1 hs2, bind,
      Except.bind, pure, Except.pure, hs3]

/-! ## Names in end tags -/

theorem scanEndName_append {cs : List Char}
    (hcs : ∀ x ∈ cs, k.continues x = true ∨ x = ':') (hs : k.stopsAt s = true)
    (acc : List Char) (r : Source) :
    scanEndName k acc (glyphs cs ++ .char s :: r) = .ok (acc.reverse ++ cs, .char s :: r) := by
  obtain ⟨hs1, hs2, hs3⟩ := NameClass.stopsAt_iff.mp hs
  induction cs generalizing acc with
  | nil => simp [scanEndName, hs1, hs2, hs3]
  | cons c cs ih =>
    have hc := hcs c List.mem_cons_self
    rw [glyphs_cons, List.cons_append, scanEndName, if_pos (by simpa using hc),
      ih (fun x hx => hcs x (List.mem_cons_of_mem c hx))]
    simp

theorem NameClass.IsQualified.eq_cons {n : List Char} (hn : k.IsQualified n) :
    ∃ c cs, n = c :: cs ∧ k.starts c = true ∧ ∀ x ∈ cs, k.continues x = true ∨ x = ':' := by
  cases hn with
  | plain hn =>
    obtain ⟨c, cs, rfl, hc, hcs⟩ := NameClass.isName_iff.mp hn
    exact ⟨c, cs, rfl, hc, fun x hx => Or.inl (hcs x hx)⟩
  | @prefixed p n hp hn =>
    obtain ⟨c, cs, rfl, hc, hcs⟩ := NameClass.isName_iff.mp hp
    refine ⟨c, cs ++ ':' :: n, rfl, hc, fun x hx => ?_⟩
    rcases List.mem_append.mp hx with hx | hx
    · exact Or.inl (hcs x hx)
    · rcases List.mem_cons.mp hx with rfl | hx
      · exact Or.inr rfl
      · exact Or.inl (NameClass.continues_of_mem_isName hn hx)

/-- An end tag ends at its bracket. -/
theorem scanEndTag_append {n : List Char} (hn : NameClass.plain.IsQualified n) (r : Source) :
    scanEndTag .plain (glyphs n ++ .char '>' :: r) = .ok (n, r) := by
  obtain ⟨c, cs, rfl, hc, hcs⟩ := hn.eq_cons
  have hstop : NameClass.plain.stopsAt '>' = true := by decide
  simp [scanEndTag, scanNameStart, hc, scanEndName_append hcs hstop, skipBlanks, Glyph.isSpace,
    isSpace, bind, Except.bind, pure, Except.pure]

end ContractDrift.Xml
