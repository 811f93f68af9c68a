/-
Declarations at the start of a text.

A declaration that is read without a fault consists of a few ASCII characters and holds no
question mark (`isMarkFree_of_parse`).  So it is found at the start of a text by its closing
mark, whatever stands behind it (`nextPrologToken_declaration`).
-/
import ContractDrift.Proofs.Outcome
import ContractDrift.Proofs.Xml.Names
import ContractDrift.Xml.Document

namespace ContractDrift.Xml

/-! ## The characters of a declaration -/

/-- Whether a character may stand in a declaration: it is an ASCII character, may stand in a
document, and does not begin the closing mark. -/
def IsMarkFree (c : Char) : Prop := c.toNat < 0x80 ∧ isXmlChar c.toNat = true ∧ c ≠ '?'

/-- From one place of a declaration characters lead to another. -/
def LeadsTo (gs r : Source) : Prop :=
  ∃ front : List Char, gs = glyphs front ++ r ∧ ∀ c ∈ front, IsMarkFree c

variable {gs r r' : Source} {c : Char} {acc name value : List Char}

theorem LeadsTo.refl (gs : Source) : LeadsTo gs gs :=
  ⟨[], rfl, fun _ hc => absurd hc List.not_mem_nil⟩

theorem LeadsTo.trans (h : LeadsTo gs r) (h' : LeadsTo r r') : LeadsTo gs r' := by
  obtain ⟨front, rfl, hfront⟩ := h
  obtain ⟨back, rfl, hback⟩ := h'
  refine ⟨front ++ back, by rw [glyphs_append, List.append_assoc], fun c hc => ?_⟩
  rcases List.mem_append.mp hc with hc | hc
  · exact hfront c hc
  · exact hback c hc

theorem LeadsTo.cons (hc : IsMarkFree c) (h : LeadsTo gs r) : LeadsTo (.char c :: gs) r := by
  obtain ⟨front, rfl, hfront⟩ := h
  refine ⟨c :: front, rfl, fun x hx => ?_⟩
  rcases List.mem_cons.mp hx with rfl | hx
  · exact hc
  · exact hfront x hx

theorem isMarkFree_of_isSpace (h : isSpace c = true) : IsMarkFree c := by
  have hcases : ((c = ' ' ∨ c = '\t') ∨ c = '\n') ∨ c = '\r' := by simpa [isSpace] using h
  rcases hcases with ((rfl | rfl) | rfl) | rfl
  all_goals exact ⟨by decide, by decide, by decide⟩

theorem isMarkFree_of_isValueChar (h : isValueChar c = true) : IsMarkFree c := by
  -- letters and digits by their code points, the three marks by evaluation
  have hrange : 0x20 ≤ c.toNat ∧ c.toNat < 0x80 := by
    simp only [isValueChar, Bool.or_eq_true, beq_iff_eq] at h
    rcases h with ((h | rfl) | rfl) | rfl
    · delta Char.isAlphanum Char.isAlpha Char.isUpper Char.isLower Char.isDigit at h
      simp only [Bool.or_eq_true, Bool.and_eq_true, decide_eq_true_eq, UInt32.le_iff_toNat_le,
        ge_iff_le] at h
      have hcases : (65 ≤ c.toNat ∧ c.toNat ≤ 90 ∨ 97 ≤ c.toNat ∧ c.toNat ≤ 122) ∨
          48 ≤ c.toNat ∧ c.toNat ≤ 57 := h
      omega
    all_goals decide
  refine ⟨hrange.2, ?_, ?_⟩
  · simp only [isXmlChar, Bool.or_eq_true, Bool.and_eq_true, decide_eq_true_eq]
    omega
  · rintro rfl
    exact absurd h (by decide)

theorem leadsTo_skipBlanks (gs : Source) : LeadsTo gs (skipBlanks gs) := by
  induction gs with
  | nil => exact .refl []
  | cons g gs ih =>
    rw [skipBlanks, List.dropWhile_cons]
    split
    · rename_i hspace
      cases g with
      | char c => exact .cons (isMarkFree_of_isSpace hspace) ih
      | bad => cases hspace
      | cut => cases hspace
    · exact .refl _

theorem leadsTo_of_takeSettingValue {quote : Char} (hquote : IsMarkFree quote)
    (h : takeSettingValue quote acc gs = .ok (value, r)) : LeadsTo gs r := by
  -- on the source, for any part of the value that has been read before
  induction gs generalizing acc with
  | nil => cases h
  | cons g gs ih =>
    cases g with
    | bad => cases h
    | cut => cases h
    | char c =>
      rw [takeSettingValue] at h
      split at h
      · rename_i hend
        cases h
        exact .cons (hend ▸ hquote) (.refl r)
      · split at h
        · rename_i hvalue
          exact .cons (isMarkFree_of_isValueChar hvalue) (ih h)
        · cases h

theorem eq_of_takeSettingName (h : takeSettingName acc gs = .ok (name, r)) :
    ∃ front : List Char, gs = glyphs front ++ r ∧ name = acc.reverse ++ front := by
  induction gs generalizing acc with
  | nil => cases h
  | cons g gs ih =>
    cases g with
    | bad => cases h
    | cut => cases h
    | char c =>
      rw [takeSettingName] at h
      split at h
      · cases h
        exact ⟨[], rfl, by simp⟩
      · split at h
        · obtain ⟨front, rfl, rfl⟩ := ih h
          exact ⟨c :: front, rfl, by simp⟩
        · cases h

/-- Behind a setting there are only blanks, or there is another setting: a name, an equals sign and
a value between quotes, with blanks in front of each. -/
theorem takeSetting_eq_ok {setting : Option Setting} (h : takeSetting gs = .ok (setting, r)) :
    setting = none ∧ LeadsTo gs [] ∨
      ∃ s, setting = some s ∧ ((∀ c ∈ s.name, IsMarkFree c) → LeadsTo gs r) := by
  cases gs with
  | nil =>
    cases h
    exact .inl ⟨rfl, .refl []⟩
  | cons g tail =>
    have hstart := leadsTo_skipBlanks (g :: tail)
    unfold takeSetting at h
    simp only at h
    split at h
    · cases h
    · split at h
      · rename_i hend
        cases h
        rw [hend] at hstart
        exact .inl ⟨rfl, hstart⟩
      · obtain ⟨⟨n, r₁⟩, hn, h⟩ := bind_eq_ok_iff.mp h
        have hequals := leadsTo_skipBlanks r₁
        simp only at h
        split at h
        · rename_i r₂ heq
          rw [heq] at hequals
          have hquote := leadsTo_skipBlanks r₂
          split at h
          · cases h
          · split at h
            · rename_i q r₃ heq'
              rw [heq'] at hquote
              split at h
              · rename_i hq
                obtain ⟨⟨v, r₄⟩, hv, h⟩ := bind_eq_ok_iff.mp h
                cases h
                obtain ⟨front, hfront, rfl⟩ := eq_of_takeSettingName hn
                refine .inr ⟨_, rfl, fun hname => ?_⟩
                have hq' : IsMarkFree q := by
                  rcases hq with rfl | rfl
                  all_goals exact ⟨by decide, by decide, by decide⟩
                have hvalue : LeadsTo (.char q :: r₃) r₄ :=
                  .cons hq' (leadsTo_of_takeSettingValue hq' hv)
                have hthrough : LeadsTo (.char '=' :: r₂) r₄ :=
                  .cons ⟨by decide, by decide, by decide⟩ (hquote.trans hvalue)
                rw [hfront] at hstart
                exact hstart.trans (.trans ⟨_, rfl, hname⟩ (hequals.trans hthrough))
              · cases h
            · cases h
        · cases h

theorem leadsTo_of_finishDeclaration {encoding : Option (List Char × Source)} {s : Setting}
    {d : Declaration} (h : finishDeclaration encoding s r = .ok d) :
    s.name = "standalone".toList ∧ LeadsTo r [] := by
  have hend := leadsTo_skipBlanks r
  unfold finishDeclaration at h
  split at h
  · cases h
  · rename_i hname
    refine ⟨Decidable.not_not.mp hname, ?_⟩
    simp only at h
    -- whichever of its two values the setting has, only blanks follow
    split at h
    · split at h
      · rename_i hnil
        rwa [hnil] at hend
      · cases h
    · split at h
      · split at h
        · rename_i hnil
          rwa [hnil] at hend
        · cases h
      · cases h

theorem isMarkFree_of_known {name : List Char}
    (h : name ∈ ["version".toList, "encoding".toList, "standalone".toList]) :
    ∀ c ∈ name, IsMarkFree c := by
  have hvalue : ["version".toList, "encoding".toList, "standalone".toList].all
      (·.all isValueChar) = true := by
    decide
  intro c hc
  exact isMarkFree_of_isValueChar (List.all_eq_true.mp (List.all_eq_true.mp hvalue name h) c hc)

/-- Each setting of a declaration leads to the next, and the last to its end. -/
theorem leadsTo_nil_of_parse {d : Declaration} (h : Declaration.parse gs = .ok d) :
    LeadsTo gs [] := by
  obtain ⟨⟨first, r₁⟩, hfirst, h⟩ := bind_eq_ok_iff.mp h
  -- a declaration ends behind any of its settings, and each of these leads on to the next
  rcases takeSetting_eq_ok hfirst with ⟨-, hend⟩ | ⟨version, rfl, hversion⟩
  · exact hend
  simp only at h
  split at h
  · cases h
  rename_i hname
  have hknown : version.name = "version".toList := Decidable.not_not.mp hname
  refine (hversion (isMarkFree_of_known (by simp [hknown]))).trans ?_
  obtain ⟨⟨second, r₂⟩, hsecond, h⟩ := bind_eq_ok_iff.mp h
  rcases takeSetting_eq_ok hsecond with ⟨-, hend⟩ | ⟨s, rfl, hs⟩
  · exact hend
  simp only at h
  split at h
  · rename_i hencoding
    refine (hs (isMarkFree_of_known (by simp [hencoding]))).trans ?_
    split at h
    · cases h
    · split at h
      · cases h
      · obtain ⟨⟨third, r₃⟩, hthird, h⟩ := bind_eq_ok_iff.mp h
        rcases takeSetting_eq_ok hthird with ⟨-, hend⟩ | ⟨s', rfl, hs'⟩
        · exact hend
        · obtain ⟨hstandalone, hend⟩ := leadsTo_of_finishDeclaration h
          exact (hs' (isMarkFree_of_known (by simp [hstandalone]))).trans hend
  · obtain ⟨hstandalone, hend⟩ := leadsTo_of_finishDeclaration h
    exact (hs (isMarkFree_of_known (by simp [hstandalone]))).trans hend

/-- A declaration holds no question mark and only ASCII characters that may stand in a document. -/
theorem isMarkFree_of_parse {text : List Char} {d : Declaration}
    (h : Declaration.parse (glyphs text) = .ok d) : ∀ c ∈ text, IsMarkFree c := by
  obtain ⟨front, hfront, hfree⟩ := leadsTo_nil_of_parse h
  have htext : text = front := by
    rw [List.append_nil] at hfront
    rw [← chars_glyphs text, hfront, chars_glyphs]
  rw [htext]
  exact hfree

/-- The text of a declaration starts with a blank. -/
theorem exists_blank_of_parse {text : List Char} {d : Declaration}
    (h : Declaration.parse (glyphs text) = .ok d) :
    ∃ c rest, text = c :: rest ∧ isSpace c = true := by
  cases text with
  | nil => cases h
  | cons c rest =>
    refine ⟨c, rest, rfl, ?_⟩
    cases hspace : isSpace c with
    | true => rfl
    | false =>
      have hrefused : takeSetting (glyphs (c :: rest)) = .error (glyphs (c :: rest)) := by
        rw [glyphs_cons, takeSetting, Glyph.isSpace, hspace]
        rfl
      rw [Declaration.parse, hrefused] at h
      cases h

/-! ## The declaration at the start of a text -/

theorem scanInstructionText_append {cs : List Char} (h : ∀ c ∈ cs, c ≠ '?') (acc r : Source) :
    scanInstructionText acc (glyphs cs ++ .char '?' :: .char '>' :: r) =
      .ok ((glyphs cs).reverse ++ acc, r) := by
  induction cs generalizing acc with
  | nil => rfl
  | cons c cs ih =>
    have hc : c ≠ '?' := h c List.mem_cons_self
    have hrest := ih fun x hx => h x (List.mem_cons_of_mem c hx)
    simp [scanInstructionText, hc, hrest]

/-- A declaration at the start of a text is found, whatever stands behind it. -/
theorem nextPrologToken_declaration {k : NameClass} {text : List Char} {d : Declaration}
    (h : Declaration.parse (glyphs text) = .ok d) (r : Source) :
    ∃ after, nextPrologToken k (glyphs ("<?xml".toList ++ text ++ "?>".toList) ++ r) =
      .ok (some (.instruction .declaration (glyphs text) after, r)) := by
  have hfree := isMarkFree_of_parse h
  obtain ⟨c, cs, rfl, hc⟩ := exists_blank_of_parse h
  have hsource : glyphs ("<?xml".toList ++ (c :: cs) ++ "?>".toList) ++ r =
      .char '<' :: .char '?' :: (glyphs "xml".toList ++ .char c :: (glyphs cs ++
        .char '?' :: .char '>' :: r)) := by
    rw [glyphs_append, glyphs_append, glyphs_cons]
    simp [glyphs]
  -- the blank behind the target is what ends its name
  have hstops : k.continues c = false := by
    have hcases : ((c = ' ' ∨ c = '\t') ∨ c = '\n') ∨ c = '\r' := by simpa [isSpace] using hc
    rcases hcases with ((rfl | rfl) | rfl) | rfl
    all_goals cases k <;> decide +kernel
  have htarget : scanName k (glyphs "xml".toList ++ .char c :: (glyphs cs ++
      .char '?' :: .char '>' :: r)) =
        .ok ("xml".toList, .char c :: (glyphs cs ++ .char '?' :: .char '>' :: r)) :=
    scanName_append (by cases k <;> decide +kernel) hstops (hfree c List.mem_cons_self).1 _
  have htext := scanInstructionText_append
    (fun x hx => (hfree x (List.mem_cons_of_mem c hx)).2.2) [] r
  have hinstruction : scanInstruction k (glyphs "xml".toList ++ .char c :: (glyphs cs ++
      .char '?' :: .char '>' :: r)) = .ok (.declaration, glyphs (c :: cs), r) := by
    have hkind : instructionKind? "xml".toList = some .declaration := by decide
    have hmark : (c == '?') = false := beq_false_of_ne (hfree c List.mem_cons_self).2.2
    simp only [scanInstruction, htarget, bind, Except.bind, hc, hkind, hmark, Bool.true_or,
      if_true, Bool.false_eq_true, if_false, htext, List.append_nil, List.reverse_reverse]
    rfl
  rw [hsource, nextPrologToken, if_neg (by decide)]
  simp only [scanPrologMarkup, hinstruction, bind, Except.bind]
  exact ⟨_, rfl⟩

end ContractDrift.Xml
