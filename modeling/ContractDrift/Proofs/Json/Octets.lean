/-
The octets of a JSON object are read as its text is.

Which encoding form octets are in is told by the first of them.  A text that holds an object starts
with two characters of the ASCII range (`IsLead`), which settles that its octets are UTF-8
(`decodeOctets_of_lead`); so the octets of the text are read as the text (`parseOctets_utf8`).

Design notes: the same does not hold for every value: the octets of a lone digit with a NUL behind
it, for instance, are taken for UTF-16.
-/
import ContractDrift.Json.Reader
import ContractDrift.Proofs.Outcome
import ContractDrift.Proofs.Text.Utf8

namespace ContractDrift.Json

/-- A blank, or a character with which an object or its first member starts, or an object ends. -/
def IsLead (c : Char) : Prop := c ∈ [' ', '\t', '\n', '\r', '\x7b', '\x7d', '"']

theorem isLead_of_isSpace {c : Char} (h : isSpace c = true) : IsLead c := by
  simp only [isSpace, Bool.or_eq_true, beq_iff_eq] at h
  rcases h with ((rfl | rfl) | rfl) | rfl <;> simp [IsLead]

/-! ## The first characters of an object -/

section Reader

variable {n : Nat} {acc : List Value} {members m : Members} {cs r : List Char} {v : Value}

/-- Whether a value has no parts: it is neither an array nor an object. -/
def Value.isLeaf : Value → Bool
  | .array _ => false
  | .object _ => false
  | _ => true

theorem isLeaf_of_readWord? (h : readWord? cs = some (v, r)) : v.isLeaf = true := by
  obtain ⟨⟨word, value⟩, hmem, hfound⟩ := List.exists_of_findSome?_eq_some h
  dsimp only at hfound
  split at hfound
  · obtain rfl : value = v := (Prod.mk.inj (Option.some.inj hfound)).1
    simp only [words, List.mem_cons, Prod.mk.injEq, List.not_mem_nil, or_false] at hmem
    rcases hmem with ⟨-, rfl⟩ | ⟨-, rfl⟩ | ⟨-, rfl⟩ | ⟨-, rfl⟩ | ⟨-, rfl⟩ | ⟨-, rfl⟩ <;> rfl
  · cases hfound

/-- Whatever way a number is written, it has no parts. -/
theorem isLeaf_of_readNumber (h : readNumber cs = .ok (v, r)) : v.isLeaf = true := by
  unfold readNumber at h
  dsimp only at h
  split at h
  · cases h
  · split at h
    · rw [← (Prod.mk.inj (Except.ok.inj h)).1]
      rfl
    · split at h
      · rw [← (Prod.mk.inj (Except.ok.inj h)).1]
        rfl
      · split at h
        · cases h
        · rw [← (Prod.mk.inj (Except.ok.inj h)).1]
          rfl

theorem ne_object_of_readItems (h : readItems n acc cs = .ok (v, r)) (m : Members) :
    v ≠ .object m := by
  induction n generalizing acc cs with
  | zero => exact nomatch h
  | succ n ih =>
    unfold readItems at h
    obtain ⟨⟨x, rest⟩, -, h⟩ := bind_eq_ok_iff.mp h
    dsimp only at h
    split at h
    · rw [← (Prod.mk.inj (Except.ok.inj h)).1]
      exact nofun
    · exact ih h
    · exact nomatch h

theorem exists_of_readMembers (h : readMembers n members cs = .ok (v, r)) :
    ∃ rest, cs = '"' :: rest := by
  cases n with
  | zero => exact nomatch h
  | succ n =>
    unfold readMembers at h
    split at h
    · exact ⟨_, rfl⟩
    · exact nomatch h

/-- An object is read from a brace, which its first member or the other brace follows. -/
theorem exists_of_readValue (h : readValue n cs = .ok (.object m, r)) :
    ∃ inside, cs = '\x7b' :: inside ∧ ∃ c rest, skipSpace inside = c :: rest ∧ IsLead c := by
  cases n with
  | zero => exact nomatch h
  | succ n =>
    -- only what starts with a brace is an object, and behind it stands a key or the other brace
    unfold readValue at h
    split at h
    · obtain ⟨⟨text, rest⟩, -, hv⟩ := bind_eq_ok_iff.mp h
      exact nomatch (Prod.mk.inj (pure_eq_ok_iff.mp hv)).1
    · refine ⟨_, rfl, ?_⟩
      split at h
      · rename_i rest hrest
        exact ⟨_, rest, hrest, by simp [IsLead]⟩
      · obtain ⟨rest, hrest⟩ := exists_of_readMembers h
        exact ⟨_, rest, hrest, by simp [IsLead]⟩
    · split at h
      · exact nomatch (Prod.mk.inj (Except.ok.inj h)).1
      · exact absurd rfl (ne_object_of_readItems h m)
    · split at h
      · rename_i found hfound
        obtain rfl : found = (.object m, r) := Except.ok.inj h
        cases isLeaf_of_readWord? hfound
      · cases isLeaf_of_readNumber h

end Reader

theorem exists_blanks_of_skipSpace {cs rest : List Char} (h : skipSpace cs = rest) :
    ∃ ws, cs = ws ++ rest ∧ ∀ w ∈ ws, IsLead w :=
  ⟨cs.takeWhile isSpace, by rw [← h, skipSpace, List.takeWhile_append_dropWhile],
    fun _ hw => isLead_of_isSpace (List.all_eq_true.mp List.all_takeWhile _ hw)⟩

/-- What a text stands for is read behind its first blanks. -/
theorem exists_readValue_of_parse {s : String} {v : Value} (h : parse s = .ok v) :
    ∃ n rest, readValue n (skipSpace s.toList) = .ok (v, rest) := by
  unfold parse parseChars at h
  split at h
  · rename_i hread
    obtain rfl := Except.ok.inj h
    unfold readDocument at hread
    split at hread
    · exact nomatch hread
    · obtain ⟨⟨value, rest⟩, hvalue, hend⟩ := bind_eq_ok_iff.mp hread
      dsimp only at hend
      split at hend
      · rw [pure_eq_ok_iff.mp hend]
        exact ⟨_, rest, hvalue⟩
      · exact nomatch hend
  · exact nomatch h
  · exact nomatch h

/-- The text of an object starts with two characters that settle how it is encoded. -/
theorem exists_leads_of_parse {s : String} {m : Members} (h : parse s = .ok (.object m)) :
    ∃ a b rest, s.toList = a :: b :: rest ∧ IsLead a ∧ IsLead b := by
  obtain ⟨_, _, hvalue⟩ := exists_readValue_of_parse h
  obtain ⟨inside, hbrace, c, rest, hinside, hc⟩ := exists_of_readValue hvalue
  obtain ⟨ws, hcs, hws⟩ := exists_blanks_of_skipSpace hbrace
  obtain ⟨ws', rfl, hws'⟩ := exists_blanks_of_skipSpace hinside
  -- everything up to the first key or the closing brace is of one octet
  have hleads : ∀ x ∈ ws ++ '\x7b' :: (ws' ++ [c]), IsLead x := by
    intro x hx
    simp only [List.mem_append, List.mem_cons, List.not_mem_nil, or_false] at hx
    rcases hx with hx | rfl | hx | rfl
    · exact hws x hx
    · simp [IsLead]
    · exact hws' x hx
    · exact hc
  have hlength : 2 ≤ (ws ++ '\x7b' :: (ws' ++ [c])).length := by
    simp only [List.length_append, List.length_cons, List.length_nil]
    omega
  have hsplit : s.toList = (ws ++ '\x7b' :: (ws' ++ [c])) ++ rest := by simp [hcs]
  generalize ws ++ '\x7b' :: (ws' ++ [c]) = leads at hleads hlength hsplit
  match leads with
  | a :: b :: leads =>
    exact ⟨a, b, leads ++ rest, hsplit, hleads a (by simp), hleads b (by simp)⟩

/-! ## Their octets -/

/-- The octets of the leads. -/
def leadOctets : Text.Octets := [0x20, 0x09, 0x0A, 0x0D, 0x7B, 0x7D, 0x22]

theorem utf8Char_of_isLead {c : Char} (h : IsLead c) :
    ∃ x ∈ leadOctets, Text.utf8Char c = [x] := by
  simp only [IsLead, List.mem_cons, List.not_mem_nil, or_false] at h
  rcases h with rfl | rfl | rfl | rfl | rfl | rfl | rfl <;> exact ⟨_, by decide, rfl⟩

/-- A lead at the front, and no zero behind it, makes UTF-8. -/
theorem decodeOctets_of_lead {x y : UInt8} (hx : x ∈ leadOctets) (hy : y ≠ 0)
    (octets : Text.Octets) :
    decodeOctets (x :: y :: octets) = Text.decodeUtf8 true (x :: y :: octets) := by
  have hzero : ¬ (y == 0) = true := by simp [hy]
  simp only [leadOctets, List.mem_cons, List.not_mem_nil, or_false] at hx
  -- how many octets there are decides which of them are looked at
  match octets with
  | [] => rcases hx with rfl | rfl | rfl | rfl | rfl | rfl | rfl <;> exact if_neg hzero
  | [_] => rcases hx with rfl | rfl | rfl | rfl | rfl | rfl | rfl <;> rfl
  | _ :: _ :: _ => rcases hx with rfl | rfl | rfl | rfl | rfl | rfl | rfl <;> exact if_neg hzero

/-- The octets of the text of an object are read as the text. -/
theorem parseOctets_utf8 {s : String} {m : Members} (h : parse s = .ok (.object m)) :
    parseOctets (Text.utf8 s) = .ok (.object m) := by
  obtain ⟨a, b, rest, hs, ha, hb⟩ := exists_leads_of_parse h
  obtain ⟨x, hx, hax⟩ := utf8Char_of_isLead ha
  obtain ⟨y, hy, hby⟩ := utf8Char_of_isLead hb
  have hoctets : Text.utf8 s = x :: y :: Text.utf8Chars rest := by
    rw [Text.utf8, hs, Text.utf8Chars, List.flatMap_cons, List.flatMap_cons, hax, hby]
    rfl
  have hzero : y ≠ 0 := fun h => absurd (h ▸ hy) (by decide)
  have hdecode := Text.decodeUtf8_utf8 true s
  rw [hoctets, ← decodeOctets_of_lead hx hzero, ← hoctets] at hdecode
  rw [parseOctets, hdecode]
  exact h

end ContractDrift.Json
