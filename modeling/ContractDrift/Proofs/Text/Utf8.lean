/-
UTF-8 is read as it was written.

`utf8Step` takes the octets of one character off the front and answers this character
(`utf8Step_utf8Char`), whatever follows.  So the octets of a text are decoded to this text
(`decodeUtf8_utf8`), and the glyphs that a document reader sees in a
written text are those of the text's characters (`read_utf8Chars`).
-/
import Mathlib.Tactic.SplitIfs
import ContractDrift.Xml.Glyph

namespace ContractDrift.Text

theorem utf8Chars_append (a b : List Char) : utf8Chars (a ++ b) = utf8Chars a ++ utf8Chars b :=
  List.flatMap_append

/-- A code point lies below the surrogates or above them. -/
theorem toNat_range (c : Char) :
    c.toNat < 0xD800 ∨ (0xE000 ≤ c.toNat ∧ c.toNat < 0x110000) := by
  rcases c.valid with h | h
  · exact Or.inl h
  · refine Or.inr ⟨?_, h.2⟩
    have h1 : 0xDFFF < c.toNat := h.1
    omega

/-! ## Octets given by numbers -/

theorem toNat_octet {m : Nat} (h : m < 256) : (UInt8.ofNat m).toNat = m :=
  UInt8.toNat_ofNat_of_lt h

theorem octet_lt {m k : Nat} {a : UInt8} (h : m < 256) (ha : a.toNat = k) :
    UInt8.ofNat m < a ↔ m < k := by
  rw [UInt8.lt_iff_toNat_lt, toNat_octet h, ha]

theorem octet_le {m k : Nat} {a : UInt8} (h : m < 256) (ha : a.toNat = k) :
    UInt8.ofNat m ≤ a ↔ m ≤ k := by
  rw [UInt8.le_iff_toNat_le, toNat_octet h, ha]

theorem le_octet {m k : Nat} {a : UInt8} (h : m < 256) (ha : a.toNat = k) :
    a ≤ UInt8.ofNat m ↔ k ≤ m := by
  rw [UInt8.le_iff_toNat_le, toNat_octet h, ha]

theorem octet_eq {m k : Nat} {a : UInt8} (h : m < 256) (ha : a.toNat = k) :
    UInt8.ofNat m = a ↔ m = k := by
  rw [← UInt8.toNat_inj, toNat_octet h, ha]

theorem isTail_octet {m : Nat} (h : m < 0x40) : isTail (UInt8.ofNat (0x80 + m)) = true := by
  simp only [isTail, Bool.and_eq_true, decide_eq_true_eq]
  rw [le_octet (k := 0x80) (by omega) rfl, octet_le (k := 0xBF) (by omega) rfl]
  omega

theorem tailBits_octet {m : Nat} (h : m < 0x40) : tailBits (UInt8.ofNat (0x80 + m)) = m := by
  rw [tailBits, toNat_octet (by omega)]
  omega

/-! ## Characters of one to four octets -/

theorem utf8Step_one {x : Nat} (hx : x < 0x80) (r : Octets) :
    utf8Step (UInt8.ofNat x) r = .char (Char.ofNat x) r := by
  have h1 : UInt8.ofNat x < 0x80 := (octet_lt (by omega) rfl).mpr hx
  unfold utf8Step
  rw [if_pos h1, toNat_octet (by omega)]

/-- An octet from 0xC2 to 0xF4 starts a character of several octets. -/
theorem starts_several {x : Nat} (hlow : 0xC2 ≤ x) (hhigh : x < 0xF5) :
    ¬ UInt8.ofNat x < 0x80 ∧
      ¬ (decide (UInt8.ofNat x < 0xC2) || decide (0xF5 ≤ UInt8.ofNat x)) = true := by
  have h1 : ¬ UInt8.ofNat x < 0x80 := by rw [octet_lt (k := 0x80) (by omega) rfl]; omega
  have h2 : ¬ UInt8.ofNat x < 0xC2 := by rw [octet_lt (k := 0xC2) (by omega) rfl]; omega
  have h3 : ¬ 0xF5 ≤ UInt8.ofNat x := by rw [le_octet (k := 0xF5) (by omega) rfl]; omega
  refine ⟨h1, ?_⟩
  simp only [Bool.or_eq_true, decide_eq_true_eq]
  exact not_or.mpr ⟨h2, h3⟩

theorem utf8Step_two {x y : Nat} (hx : 2 ≤ x) (hx' : x < 0x20) (hy : y < 0x40) (r : Octets) :
    utf8Step (UInt8.ofNat (0xC0 + x)) (UInt8.ofNat (0x80 + y) :: r) =
      .char (Char.ofNat (x * 0x40 + y)) r := by
  obtain ⟨h1, h2⟩ := starts_several (show 0xC2 ≤ 0xC0 + x by omega) (by omega)
  have h3 : UInt8.ofNat (0xC0 + x) < 0xE0 := by rw [octet_lt (k := 0xE0) (by omega) rfl]; omega
  unfold utf8Step
  rw [if_neg h1, if_neg h2, if_pos h3]
  simp only [isTail_octet hy, tailBits_octet hy, toNat_octet (show 0xC0 + x < 256 by omega),
    Nat.add_sub_cancel_left, if_true]

theorem utf8Step_three {x y z : Nat} (hx : x < 0x10) (hy : y < 0x40) (hz : z < 0x40)
    (hlow : x = 0 → 0x20 ≤ y) (hhigh : x = 0xD → y < 0x20) (r : Octets) :
    utf8Step (UInt8.ofNat (0xE0 + x)) (UInt8.ofNat (0x80 + y) :: UInt8.ofNat (0x80 + z) :: r) =
      .char (Char.ofNat (x * 0x1000 + y * 0x40 + z)) r := by
  obtain ⟨h1, h2⟩ := starts_several (show 0xC2 ≤ 0xE0 + x by omega) (by omega)
  have h3 : ¬ UInt8.ofNat (0xE0 + x) < 0xE0 := by rw [octet_lt (k := 0xE0) (by omega) rfl]; omega
  have h4 : UInt8.ofNat (0xE0 + x) < 0xF0 := by rw [octet_lt (k := 0xF0) (by omega) rfl]; omega
  have h5 : ¬ (UInt8.ofNat (0xE0 + x) = 0xE0 ∧ UInt8.ofNat (0x80 + y) < 0xA0) := by
    rw [octet_eq (k := 0xE0) (by omega) rfl, octet_lt (k := 0xA0) (by omega) rfl]
    omega
  have h6 : ¬ (UInt8.ofNat (0xE0 + x) = 0xED ∧ 0xA0 ≤ UInt8.ofNat (0x80 + y)) := by
    rw [octet_eq (k := 0xED) (by omega) rfl, le_octet (k := 0xA0) (by omega) rfl]
    omega
  -- the second octet leaves out long forms and surrogates
  unfold utf8Step
  rw [if_neg h1, if_neg h2, if_neg h3, if_pos h4]
  simp only [isTail_octet hy, isTail_octet hz, tailBits_octet hy, tailBits_octet hz,
    toNat_octet (show 0xE0 + x < 256 by omega), Nat.add_sub_cancel_left, Bool.not_true,
    Bool.false_or, Bool.and_eq_true, beq_iff_eq, decide_eq_true_eq, if_true]
  rw [if_neg h5, if_neg h6]

theorem utf8Step_four {x y z w : Nat} (hx : x < 5) (hy : y < 0x40) (hz : z < 0x40) (hw : w < 0x40)
    (hlow : x = 0 → 0x10 ≤ y) (hhigh : x = 4 → y < 0x10) (r : Octets) :
    utf8Step (UInt8.ofNat (0xF0 + x)) (UInt8.ofNat (0x80 + y) :: UInt8.ofNat (0x80 + z) ::
        UInt8.ofNat (0x80 + w) :: r) =
      .char (Char.ofNat (x * 0x40000 + y * 0x1000 + z * 0x40 + w)) r := by
  obtain ⟨h1, h2⟩ := starts_several (show 0xC2 ≤ 0xF0 + x by omega) (by omega)
  have h3 : ¬ UInt8.ofNat (0xF0 + x) < 0xE0 := by rw [octet_lt (k := 0xE0) (by omega) rfl]; omega
  have h4 : ¬ UInt8.ofNat (0xF0 + x) < 0xF0 := by rw [octet_lt (k := 0xF0) (by omega) rfl]; omega
  have h5 : ¬ (UInt8.ofNat (0xF0 + x) = 0xF0 ∧ UInt8.ofNat (0x80 + y) < 0x90) := by
    rw [octet_eq (k := 0xF0) (by omega) rfl, octet_lt (k := 0x90) (by omega) rfl]
    omega
  have h6 : ¬ (UInt8.ofNat (0xF0 + x) = 0xF4 ∧ 0x90 ≤ UInt8.ofNat (0x80 + y)) := by
    rw [octet_eq (k := 0xF4) (by omega) rfl, le_octet (k := 0x90) (by omega) rfl]
    omega
  -- the second octet leaves out long forms and what is above the last code point
  unfold utf8Step
  rw [if_neg h1, if_neg h2, if_neg h3, if_neg h4]
  simp only [isTail_octet hy, isTail_octet hz, isTail_octet hw, tailBits_octet hy,
    tailBits_octet hz, tailBits_octet hw, toNat_octet (show 0xF0 + x < 256 by omega),
    Nat.add_sub_cancel_left, Bool.not_true, Bool.false_or, Bool.or_eq_true, Bool.and_eq_true,
    beq_iff_eq, decide_eq_true_eq, if_true, Bool.false_eq_true, if_false]
  rw [if_neg (not_or.mpr ⟨h5, h6⟩)]

/-- A character is read back from its octets, and what follows is left. -/
theorem utf8Step_utf8Char (c : Char) :
    ∃ a s, utf8Char c = a :: s ∧ ∀ r, utf8Step a (s ++ r) = .char c r := by
  have hc := toNat_range c
  have hback : Char.ofNat c.toNat = c := Char.ofNat_toNat c
  simp only [utf8Char]
  generalize c.toNat = n at hc hback
  rw [← hback]
  -- one case for each of the four widths, with the digits that the octets carry
  by_cases h1 : n < 0x80
  · rw [if_pos h1]
    exact ⟨_, _, rfl, fun r => utf8Step_one h1 r⟩
  rw [if_neg h1]
  by_cases h2 : n < 0x800
  · rw [if_pos h2]
    refine ⟨_, _, rfl, fun r => ?_⟩
    have := utf8Step_two (x := n / 0x40) (y := n % 0x40) (by omega) (by omega) (by omega) r
    rwa [show n / 0x40 * 0x40 + n % 0x40 = n by omega] at this
  rw [if_neg h2]
  by_cases h3 : n < 0x10000
  · rw [if_pos h3]
    refine ⟨_, _, rfl, fun r => ?_⟩
    have := utf8Step_three (x := n / 0x1000) (y := n / 0x40 % 0x40) (z := n % 0x40)
      (by omega) (by omega) (by omega) (by omega) (by omega) r
    rwa [show n / 0x1000 * 0x1000 + n / 0x40 % 0x40 * 0x40 + n % 0x40 = n by omega] at this
  · rw [if_neg h3]
    refine ⟨_, _, rfl, fun r => ?_⟩
    have := utf8Step_four (x := n / 0x40000) (y := n / 0x1000 % 0x40) (z := n / 0x40 % 0x40)
      (w := n % 0x40) (by omega) (by omega) (by omega) (by omega) (by omega) (by omega) r
    rwa [show n / 0x40000 * 0x40000 + n / 0x1000 % 0x40 * 0x1000 + n / 0x40 % 0x40 * 0x40 +
      n % 0x40 = n by omega] at this

/-! ## Whole texts -/

theorem utf8Chars_cons {c : Char} {a : UInt8} {s : Octets} (h : utf8Char c = a :: s)
    (cs : List Char) : utf8Chars (c :: cs) = a :: (s ++ utf8Chars cs) := by
  rw [utf8Chars, List.flatMap_cons, h, List.cons_append]
  rfl

theorem decodeUtf8From_utf8Chars (lenient : Bool) (cs : List Char) {fuel : Nat}
    (hfuel : (utf8Chars cs).length < fuel) (pos : Nat) (acc : List Char) :
    decodeUtf8From lenient fuel pos acc (utf8Chars cs) = .ok (acc.reverse ++ cs) := by
  induction cs generalizing fuel pos acc with
  | nil =>
    obtain ⟨n, rfl⟩ : ∃ n, fuel = n + 1 := ⟨fuel - 1, by omega⟩
    show decodeUtf8From lenient (n + 1) pos acc [] = _
    rw [decodeUtf8From, List.append_nil]
  | cons c cs ih =>
    obtain ⟨n, rfl⟩ : ∃ n, fuel = n + 1 := ⟨fuel - 1, by omega⟩
    obtain ⟨a, s, hs, hstep⟩ := utf8Step_utf8Char c
    rw [utf8Chars_cons hs] at hfuel ⊢
    simp only [List.length_cons, List.length_append] at hfuel
    simp only [decodeUtf8From, hstep]
    rw [ih (by omega)]
    simp

/-- The octets of a text are read as this text. -/
theorem decodeUtf8_utf8 (lenient : Bool) (s : String) : decodeUtf8 lenient (utf8 s) = .ok s := by
  rw [decodeUtf8, utf8, decodeUtf8From_utf8Chars lenient s.toList (Nat.lt_succ_self _)]
  show Except.ok (String.ofList ([] ++ s.toList)) = _
  rw [List.nil_append, String.ofList_toList]

end ContractDrift.Text

namespace ContractDrift.Xml

open ContractDrift.Text (utf8Char utf8Chars octet_lt utf8Step_utf8Char)

/-- The first octet of a character tells how many octets it has. -/
theorem utf8Width_utf8Char {c : Char} {a : UInt8} {s : Text.Octets} (h : utf8Char c = a :: s) :
    utf8Width a ≤ s.length + 1 := by
  -- the cases are those of the encoder, each with its bound for the first octet
  have hc := Text.toNat_range c
  simp only [utf8Char] at h
  generalize c.toNat = n at hc h
  by_cases h1 : n < 0x80
  · rw [if_pos h1] at h
    obtain ⟨rfl, rfl⟩ := List.cons.inj h
    have : UInt8.ofNat n < 0xC0 := by rw [octet_lt (k := 0xC0) (by omega) rfl]; omega
    simp [utf8Width, this]
  rw [if_neg h1] at h
  by_cases h2 : n < 0x800
  · rw [if_pos h2] at h
    obtain ⟨rfl, rfl⟩ := List.cons.inj h
    have : UInt8.ofNat (0xC0 + n / 0x40) < 0xE0 := by
      rw [octet_lt (k := 0xE0) (by omega) rfl]; omega
    rw [utf8Width, if_pos this]
    split <;> simp
  rw [if_neg h2] at h
  by_cases h3 : n < 0x10000
  · rw [if_pos h3] at h
    obtain ⟨rfl, rfl⟩ := List.cons.inj h
    have : UInt8.ofNat (0xE0 + n / 0x1000) < 0xF0 := by
      rw [octet_lt (k := 0xF0) (by omega) rfl]; omega
    rw [utf8Width, if_pos this]
    split_ifs <;> simp
  · rw [if_neg h3] at h
    obtain ⟨rfl, rfl⟩ := List.cons.inj h
    unfold utf8Width
    split_ifs <;> simp

/-- A reader of octets goes on behind the characters that are written. -/
theorem utf8Glyphs_append (cs : List Char) (r : Text.Octets) {fuel : Nat}
    (hfuel : (utf8Chars cs).length < fuel) :
    ∃ n, utf8Glyphs fuel (utf8Chars cs ++ r) =
      (cs.map fun c => glyphOf c.toNat) ++ utf8Glyphs n r := by
  induction cs generalizing fuel with
  | nil => exact ⟨fuel, rfl⟩
  | cons c cs ih =>
    obtain ⟨n, rfl⟩ : ∃ n, fuel = n + 1 := ⟨fuel - 1, by omega⟩
    obtain ⟨a, s, hs, hstep⟩ := utf8Step_utf8Char c
    have hwidth := utf8Width_utf8Char hs
    have hcons := Text.utf8Chars_cons hs cs
    rw [hcons, List.length_cons, List.length_append] at hfuel
    obtain ⟨m, hm⟩ := ih (show (utf8Chars cs).length < n by omega)
    refine ⟨m, ?_⟩
    -- the width that the first octet tells is there, so the step takes the whole character
    rw [hcons, List.cons_append, List.append_assoc, utf8Glyphs,
      if_neg (by rw [List.length_append]; omega), hstep]
    simp only [hm, List.map_cons, List.cons_append]

theorem utf8Glyphs_utf8Chars (cs : List Char) {fuel : Nat}
    (hfuel : (utf8Chars cs).length < fuel) :
    utf8Glyphs fuel (utf8Chars cs) = cs.map fun c => glyphOf c.toNat := by
  obtain ⟨n, hn⟩ := utf8Glyphs_append cs [] hfuel
  have hend : utf8Glyphs n [] = [] := by cases n <;> rfl
  rw [List.append_nil, hend, List.append_nil] at hn
  exact hn

/-- A text written in UTF-8 is read as its characters, where a document may hold them. -/
theorem read_utf8Chars {cs : List Char} (h : ∀ c ∈ cs, isXmlChar c.toNat = true) :
    Form.utf8.read (utf8Chars cs) = glyphs cs := by
  rw [Form.read, utf8Glyphs_utf8Chars cs (Nat.lt_succ_self _), glyphs]
  refine List.map_congr_left fun c hc => ?_
  rw [glyphOf, if_pos (h c hc), Char.ofNat_toNat]

end ContractDrift.Xml
