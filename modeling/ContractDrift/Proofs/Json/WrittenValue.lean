/-
Values are read from JSON as they were written, each item and member on a line of its own.

The main statement is `parse_writeIndented`: a value without floats, whose integers have no more
digits than an integer may have and whose objects have no key twice, is what its text is read as.
`parseOctets_writeIndented` says the same of an object and the octets of its text.

Design notes: the readers recurse on a bound, and the law of each is stated for a bound above
twice the length of what is left to read; a step from the reader of values to that of items or
members takes a bracket away, and one back takes nothing.
-/
import ContractDrift.Proofs.Json.Octets
import ContractDrift.Proofs.Json.WrittenText

namespace ContractDrift.Json

mutual

/-- A value is kept by its text: it holds no float, no integer with too many digits and no key
twice. -/
def Value.IsPlain : Value → Prop
  | .real _ => False
  | .int n => n.natAbs < 10 ^ digitLimit
  | .array xs => ItemsPlain xs
  | .object m => (m.map (·.1)).Nodup ∧ MembersPlain m
  | _ => True

/-- All items are kept by their texts. -/
def ItemsPlain : List Value → Prop
  | [] => True
  | x :: xs => x.IsPlain ∧ ItemsPlain xs

/-- The values of all members are kept by their texts. -/
def MembersPlain : List (String × Value) → Prop
  | [] => True
  | (_, v) :: r => v.IsPlain ∧ MembersPlain r

end

/-! ## Blanks -/

/-- All characters may stand between tokens. -/
def AreBlank (cs : List Char) : Prop := ∀ c ∈ cs, isSpace c = true

theorem isSpace_iff {c : Char} :
    isSpace c = true ↔ c = ' ' ∨ c = '\t' ∨ c = '\n' ∨ c = '\r' := by
  simp [isSpace, or_assoc]

theorem skipSpace_append {ws : List Char} (hws : AreBlank ws) {c : Char} (hc : isSpace c = false)
    (r : List Char) : skipSpace (ws ++ c :: r) = c :: r := by
  rw [skipSpace, List.dropWhile_append_of_pos hws, List.dropWhile_cons, hc]
  rfl

theorem skipSpace_cons {c : Char} (hc : isSpace c = false) (r : List Char) :
    skipSpace (c :: r) = c :: r :=
  skipSpace_append (List.forall_mem_nil _) hc r

/-- A number ends before a blank and before a mark that stands between or after values. -/
theorem endsNumber_append {ws : List Char} (hws : AreBlank ws) {c : Char}
    (hc : c = ',' ∨ c = ']' ∨ c = '\x7d') (r : List Char) : EndsNumber (ws ++ c :: r) := by
  intro x hx
  have hcases : x = ' ' ∨ x = '\t' ∨ x = '\n' ∨ x = '\r' ∨ x = ',' ∨ x = ']' ∨ x = '\x7d' := by
    cases ws with
    | nil =>
      obtain rfl : c = x := by simpa using hx
      exact Or.inr (Or.inr (Or.inr (Or.inr hc)))
    | cons w ws =>
      obtain rfl : w = x := by simpa using hx
      rcases isSpace_iff.mp (hws w List.mem_cons_self) with h | h | h | h <;> simp [h]
  rcases hcases with rfl | rfl | rfl | rfl | rfl | rfl | rfl <;> decide

theorem endsNumber_cons {c : Char} (hc : c = ',' ∨ c = ']' ∨ c = '\x7d') (r : List Char) :
    EndsNumber (c :: r) :=
  endsNumber_append (List.forall_mem_nil _) hc r

theorem toList_repeated (s : String) (n : Nat) :
    (Text.repeated s n).toList = (List.replicate n s.toList).flatten := by
  simp [Text.repeated, String.toList_join, List.flatMap_def]

/-- The characters between a line and the next at a margin. -/
def lineBreak (margin : Nat) : List Char := '\n' :: List.replicate margin ' '

theorem areBlank_lineBreak (margin : Nat) : AreBlank (lineBreak margin) := by
  intro c hc
  rcases List.mem_cons.mp hc with rfl | hc
  · decide
  · rw [List.eq_of_mem_replicate hc]
    decide

/-- The characters of a block with lines in it. -/
theorem toList_block (opening closing : String) (step margin : Nat) {lines : List String}
    (h : lines ≠ []) :
    (block opening closing step margin lines).toList =
      opening.toList ++ (lineBreak (margin + step) ++
        ((',' :: lineBreak (margin + step)).intercalate (lines.map String.toList) ++
          (lineBreak margin ++ closing.toList))) := by
  have hblanks (n : Nat) : (Text.repeated " " n).toList = List.replicate n ' ' := by
    rw [toList_repeated]
    simp [List.flatten_replicate_singleton]
  cases lines with
  | nil => exact absurd rfl h
  | cons l ls =>
    simp only [block, String.toList_append, String.toList_intercalate, hblanks]
    simp [lineBreak, List.append_assoc]

/-! ## Words and numbers -/

/-- A number is none of the words. -/
theorem readWord?_toString (n : Int) (r : List Char) :
    readWord? ((toString n).toList ++ r) = none := by
  have hstart {c : Char} {cs : List Char} (h : Nat.toDigits 10 n.natAbs = c :: cs) :
      c ≠ 'n' ∧ c ≠ 't' ∧ c ≠ 'f' ∧ c ≠ 'N' ∧ c ≠ 'I' ∧ c ≠ '-' := by
    have hdigit : c.isDigit = true :=
      Nat.isDigit_of_mem_toDigits (by decide) (by decide) (h ▸ List.mem_cons_self)
    refine ⟨?_, ?_, ?_, ?_, ?_, ?_⟩ <;> rintro rfl <;> exact absurd hdigit (by decide)
  -- the words start with letters, or with a sign and a letter behind it
  rw [toList_toString_int]
  cases hd : Nat.toDigits 10 n.natAbs with
  | nil => exact absurd hd Nat.toDigits_ne_nil
  | cons c cs =>
    obtain ⟨h1, h2, h3, h4, h5, h6⟩ := hstart hd
    by_cases hn : 0 ≤ n
    · rw [if_pos hn]
      simp [readWord?, words, h1.symm, h2.symm, h3.symm, h4.symm, h5.symm,
        h6.symm]
    · rw [if_neg hn]
      simp [readWord?, words, h5.symm]

/-- An integer starts with a digit or a minus, which nothing else starts with. -/
theorem exists_toString_cons (n : Int) :
    ∃ c cs, (toString n).toList = c :: cs ∧ isSpace c = false ∧
      c ≠ '"' ∧ c ≠ '\x7b' ∧ c ≠ '[' ∧ c ≠ ']' ∧ c ≠ '\ufeff' := by
  rw [toList_toString_int]
  by_cases hn : 0 ≤ n
  · rw [if_pos hn]
    cases hd : Nat.toDigits 10 n.natAbs with
    | nil => exact absurd hd Nat.toDigits_ne_nil
    | cons c cs =>
      have hdigit : c.isDigit = true :=
        Nat.isDigit_of_mem_toDigits (by decide) (by decide) (hd ▸ List.mem_cons_self)
      refine ⟨c, cs, rfl, Bool.eq_false_iff.mpr fun hspace => ?_, ?_, ?_, ?_, ?_, ?_⟩
      · rcases isSpace_iff.mp hspace with rfl | rfl | rfl | rfl <;>
          exact absurd hdigit (by decide)
      all_goals
        rintro rfl
        exact absurd hdigit (by decide)
  · exact ⟨'-', _, by rw [if_neg hn]; rfl, by decide, by decide, by decide, by decide, by decide,
      by decide⟩

/-- A written value starts with no blank, with no bracket that closes and with no mark of the
order of octets. -/
theorem exists_writeIndentedAt_cons (step margin : Nat) {v : Value} (h : v.IsPlain) :
    ∃ c cs, (writeIndentedAt step margin v).toList = c :: cs ∧ isSpace c = false ∧ c ≠ ']' ∧
      c ≠ '\ufeff' := by
  -- the first character tells what is written, and none of them is blank or closes an array
  cases v with
  | null =>
    have hword : "null".toList = ['n', 'u', 'l', 'l'] := by decide
    exact ⟨'n', _, hword, by decide, by decide, by decide⟩
  | bool b =>
    cases b with
    | true =>
      have hword : "true".toList = ['t', 'r', 'u', 'e'] := by decide
      exact ⟨'t', _, hword, by decide, by decide, by decide⟩
    | false =>
      have hword : "false".toList = ['f', 'a', 'l', 's', 'e'] := by decide
      exact ⟨'f', _, hword, by decide, by decide, by decide⟩
  | int n =>
    obtain ⟨c, cs, hcs, hspace, -, -, -, hclosing, hmark⟩ := exists_toString_cons n
    exact ⟨c, cs, hcs, hspace, hclosing, hmark⟩
  | real x => exact absurd h (by simp [Value.IsPlain])
  | text s => exact ⟨'"', _, toList_writeText s, by decide, by decide, by decide⟩
  | array xs =>
    cases xs with
    | nil =>
      have hblock : ("[" ++ "]").toList = ['[', ']'] := by decide
      exact ⟨'[', _, hblock, by decide, by decide, by decide⟩
    | cons x xs =>
      exact ⟨'[', _, toList_block "[" "]" step margin (by simp [indentedItems]), by decide,
        by decide, by decide⟩
  | object m =>
    cases m with
    | nil =>
      have hblock : ("\x7b" ++ "\x7d").toList = ['\x7b', '\x7d'] := by decide
      exact ⟨'\x7b', _, hblock, by decide, by decide, by decide⟩
    | cons e m =>
      exact ⟨'\x7b', _, toList_block "\x7b" "\x7d" step margin (by simp [indentedMembers]),
        by decide, by decide, by decide⟩

/-! ## One item, one member -/

variable {n : Nat} {v : Value} {cs ws r : List Char} {c : Char}

theorem readItems_last {acc : List Value} (hws : AreBlank ws)
    (h : readValue n cs = .ok (v, ws ++ ']' :: r)) :
    readItems (n + 1) acc cs = .ok (.array (acc.reverse ++ [v]), r) := by
  have hend : skipSpace (ws ++ ']' :: r) = ']' :: r := skipSpace_append hws (by decide) r
  rw [readItems, h]
  simp only [bind, Except.bind, hend, List.reverse_cons]

theorem readItems_next {acc : List Value} (hws : AreBlank ws) (hc : isSpace c = false)
    (h : readValue n cs = .ok (v, ',' :: (ws ++ c :: r))) :
    readItems (n + 1) acc cs = readItems n (v :: acc) (c :: r) := by
  have hcomma : skipSpace (',' :: (ws ++ c :: r)) = ',' :: (ws ++ c :: r) := rfl
  rw [readItems, h]
  simp only [bind, Except.bind, hcomma, skipSpace_append hws hc]

/-- A key and what follows it up to the value. -/
def keyText (k : String) : List Char := (writeText k).toList ++ [':', ' ']

/-- What a reader of members does behind the value of one. -/
def readAfterMember (n : Nat) (m : Members) (cs : List Char) :
    Except Stop (Value × List Char) :=
  match skipSpace cs with
  | '\x7d' :: r => .ok (.object m, r)
  | ',' :: r => readMembers n m (skipSpace r)
  | r => failAt .commaExpected r

theorem readMembers_key (k : String) (acc : Members) (hc : isSpace c = false)
    (h : readValue n (c :: cs) = .ok (v, r)) :
    readMembers (n + 1) acc (keyText k ++ c :: cs) = readAfterMember n (acc.insert k v) r := by
  have hkey : keyText k ++ c :: cs =
      '"' :: (k.toList.flatMap writtenChar ++ '"' :: (':' :: ' ' :: c :: cs)) := by
    simp [keyText, toList_writeText]
  have hfuel : k.toList.length <
      (k.toList.flatMap writtenChar ++ '"' :: (':' :: ' ' :: c :: cs)).length + 1 := by
    have := length_le_length_written k.toList
    simp only [List.length_append]
    omega
  have hread (start : Nat) := readText_written k.toList start hfuel [] (':' :: ' ' :: c :: cs)
  simp only [List.reverse_nil, List.nil_append, String.ofList_toList] at hread
  have hcolon : skipSpace (':' :: ' ' :: c :: cs) = ':' :: ' ' :: c :: cs := rfl
  have hblank : skipSpace (' ' :: c :: cs) = c :: cs := skipSpace_cons hc cs
  rw [hkey, readMembers]
  simp only [bind, Except.bind, hread, hcolon, hblank, h]
  rfl

theorem readMembers_last (k : String) (acc : Members) (hc : isSpace c = false) (hws : AreBlank ws)
    (h : readValue n (c :: cs) = .ok (v, ws ++ '\x7d' :: r)) :
    readMembers (n + 1) acc (keyText k ++ c :: cs) = .ok (.object (acc.insert k v), r) := by
  have hend : skipSpace (ws ++ '\x7d' :: r) = '\x7d' :: r := skipSpace_append hws (by decide) r
  rw [readMembers_key k acc hc h, readAfterMember, hend]
  rfl

theorem readMembers_next (k : String) (acc : Members) (hc : isSpace c = false) (hws : AreBlank ws)
    {d : Char} (hd : isSpace d = false)
    (h : readValue n (c :: cs) = .ok (v, ',' :: (ws ++ d :: r))) :
    readMembers (n + 1) acc (keyText k ++ c :: cs) = readMembers n (acc.insert k v) (d :: r) := by
  have hcomma : skipSpace (',' :: (ws ++ d :: r)) = ',' :: (ws ++ d :: r) := rfl
  rw [readMembers_key k acc hc h, readAfterMember, hcomma]
  simp only [skipSpace_append hws hd]

/-- A member with a new key is put at the end. -/
theorem insert_of_not_mem {m : Members} {k : String} (h : k ∉ m.map (·.1)) (v : Value) :
    m.insert k v = m ++ [(k, v)] := by
  induction m with
  | nil => rfl
  | cons e m ih =>
    obtain ⟨k', v'⟩ := e
    rw [List.map_cons, List.mem_cons, not_or] at h
    rw [Members.insert, if_neg (Ne.symm h.1), ih h.2]
    rfl

/-! ## Values -/

/-- The lines of a block, from the first to what follows the mark that closes it. -/
def linesText (margin outer : Nat) (lines : List String) (closing : Char) (r : List Char) :
    List Char :=
  (',' :: lineBreak margin).intercalate (lines.map String.toList) ++
    (lineBreak outer ++ closing :: r)

theorem linesText_last (margin outer : Nat) (l : String) (closing : Char) (r : List Char) :
    linesText margin outer [l] closing r = l.toList ++ (lineBreak outer ++ closing :: r) := by
  simp [linesText]

theorem linesText_next (margin outer : Nat) (l l' : String) (ls : List String) (closing : Char)
    (r : List Char) :
    linesText margin outer (l :: l' :: ls) closing r =
      l.toList ++ ',' :: (lineBreak margin ++ linesText margin outer (l' :: ls) closing r) := by
  simp [linesText, List.intercalate_cons_cons]

theorem toList_block_append {opening closing : String} {o c : Char} (ho : opening.toList = [o])
    (hc : closing.toList = [c]) (step margin : Nat) {lines : List String} (h : lines ≠ [])
    (r : List Char) :
    (block opening closing step margin lines).toList ++ r =
      o :: (lineBreak (margin + step) ++ linesText (margin + step) margin lines c r) := by
  rw [toList_block _ _ _ _ h, ho, hc]
  simp [linesText, List.append_assoc]

/-- The first line of a block starts as its item does. -/
theorem exists_linesText_cons (margin outer : Nat) (l : String) (ls : List String)
    (closing : Char) (r : List Char) {c : Char} {cs : List Char} (h : l.toList = c :: cs) :
    ∃ rest, linesText margin outer (l :: ls) closing r = c :: rest := by
  cases ls with
  | nil => exact ⟨_, by rw [linesText_last, h, List.cons_append]⟩
  | cons l' ls => exact ⟨_, by rw [linesText_next, h, List.cons_append]⟩

theorem toList_indentedMember (step margin : Nat) (k : String) (v : Value) :
    (writeText k ++ ": " ++ writeIndentedAt step margin v).toList =
      keyText k ++ (writeIndentedAt step margin v).toList := by
  have hcolon : (": ").toList = [':', ' '] := by decide
  rw [String.toList_append, String.toList_append, hcolon, keyText]

/-! Each of the three laws is told first for one value, item or member, from those of its parts. -/

/-- A block of items is read from its first line on. -/
theorem readValue_array {xs : List Value} {lines : List String} (step margin : Nat)
    (hcons : ∃ cs, linesText (margin + step) margin lines ']' r = c :: cs)
    (hc : isSpace c = false) (hclosing : c ≠ ']') (hlines : lines ≠ [])
    (h : readItems n [] (linesText (margin + step) margin lines ']' r) = .ok (.array xs, r)) :
    readValue (n + 1) ((block "[" "]" step margin lines).toList ++ r) = .ok (.array xs, r) := by
  obtain ⟨cs, hcs⟩ := hcons
  have hskip : skipSpace (lineBreak (margin + step) ++ c :: cs) = c :: cs :=
    skipSpace_append (areBlank_lineBreak _) hc cs
  rw [hcs] at h
  rw [toList_block_append (show "[".toList = ['['] by decide)
    (show "]".toList = [']'] by decide) step margin hlines, hcs, readValue]
  split
  · rename_i heq
    rw [hskip] at heq
    exact absurd (List.cons.inj heq).1 hclosing
  · rw [hskip, h]

/-- A block of members is read from its first line on. -/
theorem readValue_object {m : Members} {lines : List String} (step margin : Nat)
    (hcons : ∃ cs, linesText (margin + step) margin lines '\x7d' r = '"' :: cs)
    (hlines : lines ≠ [])
    (h : readMembers n [] (linesText (margin + step) margin lines '\x7d' r) = .ok (.object m, r)) :
    readValue (n + 1) ((block "\x7b" "\x7d" step margin lines).toList ++ r) =
      .ok (.object m, r) := by
  obtain ⟨cs, hcs⟩ := hcons
  have hskip : skipSpace (lineBreak (margin + step) ++ '"' :: cs) = '"' :: cs :=
    skipSpace_append (areBlank_lineBreak _) (by decide) cs
  rw [hcs] at h
  rw [toList_block_append (show "\x7b".toList = ['\x7b'] by decide)
    (show "\x7d".toList = ['\x7d'] by decide) step margin hlines, hcs, readValue]
  simp only [hskip]
  exact h

theorem readValue_null (n : Nat) (r : List Char) :
    readValue (n + 1) ("null".toList ++ r) = .ok (.null, r) := by
  have hword : "null".toList = ['n', 'u', 'l', 'l'] := by decide
  rw [hword]
  rfl

theorem readValue_true (n : Nat) (r : List Char) :
    readValue (n + 1) ("true".toList ++ r) = .ok (.bool true, r) := by
  have hword : "true".toList = ['t', 'r', 'u', 'e'] := by decide
  rw [hword]
  rfl

theorem readValue_false (n : Nat) (r : List Char) :
    readValue (n + 1) ("false".toList ++ r) = .ok (.bool false, r) := by
  have hword : "false".toList = ['f', 'a', 'l', 's', 'e'] := by decide
  rw [hword]
  rfl

theorem readValue_emptyArray (n : Nat) (r : List Char) :
    readValue (n + 1) (("[" ++ "]").toList ++ r) = .ok (.array [], r) := by
  have hmarks : ("[" ++ "]").toList = ['[', ']'] := by decide
  rw [hmarks]
  rfl

theorem readValue_emptyObject (n : Nat) (r : List Char) :
    readValue (n + 1) (("\x7b" ++ "\x7d").toList ++ r) = .ok (.object [], r) := by
  have hmarks : ("\x7b" ++ "\x7d").toList = ['\x7b', '\x7d'] := by decide
  rw [hmarks]
  rfl

theorem readValue_text (s : String) (r : List Char) :
    readValue (n + 1) ((writeText s).toList ++ r) = .ok (.text s, r) := by
  have htext : (writeText s).toList ++ r = '"' :: (s.toList.flatMap writtenChar ++ '"' :: r) := by
    simp [toList_writeText]
  have hfuel : s.toList.length < (s.toList.flatMap writtenChar ++ '"' :: r).length + 1 := by
    have := length_le_length_written s.toList
    simp only [List.length_append]
    omega
  have hread (start : Nat) := readText_written s.toList start hfuel [] r
  simp only [List.reverse_nil, List.nil_append, String.ofList_toList] at hread
  rw [htext, readValue]
  simp only [bind, Except.bind, hread]
  rfl

theorem readValue_int {i : Int} (h : i.natAbs < 10 ^ digitLimit) (hr : EndsNumber r) :
    readValue (n + 1) ((toString i).toList ++ r) = .ok (.int i, r) := by
  obtain ⟨c, cs, hcs, -, hquote, hbrace, hbracket, -, -⟩ := exists_toString_cons i
  have hword := readWord?_toString i r
  have hnumber := readNumber_toString h hr
  rw [hcs, List.cons_append] at hword hnumber ⊢
  rw [readValue]
  · simp only [hword, hnumber]
  · exact fun _ h => hquote (List.cons.inj h).1
  · exact fun _ h => hbrace (List.cons.inj h).1
  · exact fun _ h => hbracket (List.cons.inj h).1

/-- What is written is read back with a bound on the depth of the recursion. -/
structure ReadsBack (step n : Nat) : Prop where
  value : ∀ (v : Value) (margin : Nat) (r : List Char), v.IsPlain → EndsNumber r →
    2 * ((writeIndentedAt step margin v).toList ++ r).length < n →
    readValue n ((writeIndentedAt step margin v).toList ++ r) = .ok (v, r)
  items : ∀ (x : Value) (xs : List Value) (margin outer : Nat) (acc : List Value) (r : List Char),
    x.IsPlain → ItemsPlain xs →
    2 * (linesText margin outer (indentedItems step margin (x :: xs)) ']' r).length + 1 < n →
    readItems n acc (linesText margin outer (indentedItems step margin (x :: xs)) ']' r) =
      .ok (.array (acc.reverse ++ x :: xs), r)
  members : ∀ (k : String) (v : Value) (m : Members) (margin outer : Nat) (acc : Members)
    (r : List Char), v.IsPlain → MembersPlain m → ((acc ++ (k, v) :: m).map (·.1)).Nodup →
    2 * (linesText margin outer (indentedMembers step margin ((k, v) :: m)) '\x7d' r).length + 1 <
      n →
    readMembers n acc
        (linesText margin outer (indentedMembers step margin ((k, v) :: m)) '\x7d' r) =
      .ok (.object (acc ++ (k, v) :: m), r)

variable {step : Nat}

theorem ReadsBack.array_succ (hreads : ReadsBack step n) {x : Value} {xs : List Value}
    (margin : Nat) (r : List Char) (hx : x.IsPlain) (hxs : ItemsPlain xs)
    (hn : 2 * ((writeIndentedAt step margin (.array (x :: xs))).toList ++ r).length < n + 1) :
    readValue (n + 1) ((writeIndentedAt step margin (.array (x :: xs))).toList ++ r) =
      .ok (.array (x :: xs), r) := by
  obtain ⟨c, cs, hcs, hc, hclosing, -⟩ := exists_writeIndentedAt_cons step (margin + step) hx
  have hcons := exists_linesText_cons (margin + step) margin _
    (indentedItems step (margin + step) xs) ']' r hcs
  have hlines : indentedItems step (margin + step) (x :: xs) ≠ [] := by simp [indentedItems]
  rw [writeIndentedAt] at hn ⊢
  refine readValue_array step margin hcons hc hclosing hlines ?_
  refine hreads.items x xs (margin + step) margin [] r hx hxs ?_
  -- the bracket is read, so the lines are shorter
  rw [toList_block_append (show "[".toList = ['['] by decide)
    (show "]".toList = [']'] by decide) step margin hlines] at hn
  simp only [List.length_cons, List.length_append] at hn
  omega

theorem ReadsBack.object_succ (hreads : ReadsBack step n) {k : String} {v : Value} {m : Members}
    (margin : Nat) (r : List Char) (hv : v.IsPlain) (hm : MembersPlain m)
    (hkeys : (((k, v) :: m).map (·.1)).Nodup)
    (hn : 2 * ((writeIndentedAt step margin (.object ((k, v) :: m))).toList ++ r).length < n + 1) :
    readValue (n + 1) ((writeIndentedAt step margin (.object ((k, v) :: m))).toList ++ r) =
      .ok (.object ((k, v) :: m), r) := by
  have hcs := toList_indentedMember step (margin + step) k v
  rw [keyText, toList_writeText, List.cons_append, List.cons_append, List.cons_append] at hcs
  have hcons := exists_linesText_cons (margin + step) margin _
    (indentedMembers step (margin + step) m) '\x7d' r hcs
  have hlines : indentedMembers step (margin + step) ((k, v) :: m) ≠ [] := by
    simp [indentedMembers]
  rw [writeIndentedAt] at hn ⊢
  refine readValue_object step margin hcons hlines ?_
  refine hreads.members k v m (margin + step) margin [] r hv hm hkeys ?_
  rw [toList_block_append (show "\x7b".toList = ['\x7b'] by decide)
    (show "\x7d".toList = ['\x7d'] by decide) step margin hlines] at hn
  simp only [List.length_cons, List.length_append] at hn
  omega

theorem ReadsBack.value_succ (hreads : ReadsBack step n) (v : Value) (margin : Nat) (r : List Char)
    (h : v.IsPlain) (hr : EndsNumber r)
    (hn : 2 * ((writeIndentedAt step margin v).toList ++ r).length < n + 1) :
    readValue (n + 1) ((writeIndentedAt step margin v).toList ++ r) = .ok (v, r) := by
  cases v with
  | null => exact readValue_null n r
  | bool b =>
    cases b with
    | true => exact readValue_true n r
    | false => exact readValue_false n r
  | int i =>
    rw [Value.IsPlain] at h
    exact readValue_int h hr
  | real x => exact absurd h (by simp [Value.IsPlain])
  | text s => exact readValue_text s r
  | array xs =>
    cases xs with
    | nil => exact readValue_emptyArray n r
    | cons x xs =>
      rw [Value.IsPlain, ItemsPlain] at h
      exact hreads.array_succ margin r h.1 h.2 hn
  | object m =>
    cases m with
    | nil => exact readValue_emptyObject n r
    | cons e m =>
      obtain ⟨k, v⟩ := e
      rw [Value.IsPlain, MembersPlain] at h
      exact hreads.object_succ margin r h.2.1 h.2.2 h.1 hn

theorem ReadsBack.items_succ (hreads : ReadsBack step n) (x : Value) (xs : List Value)
    (margin outer : Nat) (acc : List Value) (r : List Char) (hx : x.IsPlain) (hxs : ItemsPlain xs)
    (hn : 2 * (linesText margin outer (indentedItems step margin (x :: xs)) ']' r).length + 1 <
      n + 1) :
    readItems (n + 1) acc (linesText margin outer (indentedItems step margin (x :: xs)) ']' r) =
      .ok (.array (acc.reverse ++ x :: xs), r) := by
  cases xs with
  | nil =>
    rw [indentedItems, indentedItems, linesText_last] at hn ⊢
    have hend : EndsNumber (lineBreak outer ++ ']' :: r) :=
      endsNumber_append (areBlank_lineBreak outer) (by simp) r
    exact readItems_last (areBlank_lineBreak outer)
      (hreads.value x margin _ hx hend (by omega))
  | cons y ys =>
    rw [ItemsPlain] at hxs
    obtain ⟨c, cs, hcs, hc, -⟩ := exists_writeIndentedAt_cons step margin hxs.1
    obtain ⟨rest, hrest⟩ := exists_linesText_cons margin outer _ (indentedItems step margin ys)
      ']' r hcs
    rw [indentedItems, indentedItems, linesText_next] at hn ⊢
    -- behind an item stands a comma, which ends a number, and the next item on a line of its own
    have hend : EndsNumber (',' :: (lineBreak margin ++ linesText margin outer
        (writeIndentedAt step margin y :: indentedItems step margin ys) ']' r)) :=
      endsNumber_cons (by simp) _
    have hvalue := hreads.value x margin _ hx hend (by omega)
    have hitems := hreads.items y ys margin outer (x :: acc) r hxs.1 hxs.2 (by
      simp only [List.length_append, List.length_cons] at hn
      rw [indentedItems]
      omega)
    rw [indentedItems] at hitems
    rw [hrest] at hvalue hitems ⊢
    rw [readItems_next (areBlank_lineBreak margin) hc hvalue, hitems]
    simp

theorem ReadsBack.members_succ (hreads : ReadsBack step n) (k : String) (v : Value) (m : Members)
    (margin outer : Nat) (acc : Members) (r : List Char) (hv : v.IsPlain) (hm : MembersPlain m)
    (hkeys : ((acc ++ (k, v) :: m).map (·.1)).Nodup)
    (hn : 2 * (linesText margin outer (indentedMembers step margin ((k, v) :: m)) '\x7d' r).length +
      1 < n + 1) :
    readMembers (n + 1) acc
        (linesText margin outer (indentedMembers step margin ((k, v) :: m)) '\x7d' r) =
      .ok (.object (acc ++ (k, v) :: m), r) := by
  -- the keys are different, so a member is put behind those that have been read
  have hnew : k ∉ acc.map (·.1) := by
    rw [List.map_append, List.nodup_append] at hkeys
    intro hmem
    exact hkeys.2.2 k hmem k (by simp) rfl
  obtain ⟨c, cs, hcs, hc, -⟩ := exists_writeIndentedAt_cons step margin hv
  cases m with
  | nil =>
    rw [indentedMembers, indentedMembers, linesText_last, toList_indentedMember,
      List.append_assoc] at hn ⊢
    have hend : EndsNumber (lineBreak outer ++ '\x7d' :: r) :=
      endsNumber_append (areBlank_lineBreak outer) (by simp) r
    have hvalue := hreads.value v margin _ hv hend (by
      rw [List.length_append] at hn
      omega)
    rw [hcs, List.cons_append] at hvalue ⊢
    rw [readMembers_last k acc hc (areBlank_lineBreak outer) hvalue, insert_of_not_mem hnew]
  | cons e m =>
    obtain ⟨k', v'⟩ := e
    rw [MembersPlain] at hm
    have hkey := toList_indentedMember step margin k' v'
    rw [keyText, toList_writeText, List.cons_append, List.cons_append, List.cons_append] at hkey
    obtain ⟨rest, hrest⟩ := exists_linesText_cons margin outer _ (indentedMembers step margin m)
      '\x7d' r hkey
    rw [indentedMembers, indentedMembers, linesText_next, toList_indentedMember,
      List.append_assoc] at hn ⊢
    have hend : EndsNumber (',' :: (lineBreak margin ++ linesText margin outer
        ((writeText k' ++ ": " ++ writeIndentedAt step margin v') :: indentedMembers step margin m)
        '\x7d' r)) :=
      endsNumber_cons (by simp) _
    have hvalue := hreads.value v margin _ hv hend (by
      rw [List.length_append] at hn
      omega)
    have hmembers := hreads.members k' v' m margin outer (acc ++ [(k, v)]) r hm.1 hm.2
      (by simpa using hkeys) (by
        simp only [List.length_append, List.length_cons] at hn
        rw [indentedMembers]
        omega)
    rw [indentedMembers] at hmembers
    rw [hrest] at hvalue hmembers ⊢
    rw [hcs, List.cons_append] at hvalue ⊢
    rw [readMembers_next k acc hc (areBlank_lineBreak margin) (by decide) hvalue,
      insert_of_not_mem hnew, hmembers]
    simp

theorem readsBack (step n : Nat) : ReadsBack step n := by
  induction n with
  | zero => exact ⟨by omega, by omega, by omega⟩
  | succ n ih => exact ⟨ih.value_succ, ih.items_succ, ih.members_succ⟩

/-! ## Documents -/

theorem parseChars_writeIndented (step : Nat) (h : v.IsPlain) :
    parseChars (writeIndented step v).toList = .ok v := by
  obtain ⟨c, cs, hcs, hc, -, hmark⟩ := exists_writeIndentedAt_cons step 0 h
  have hread := (readsBack step (2 * (c :: cs).length + 2)).value v 0 [] h (by simp [EndsNumber])
    (by rw [hcs, List.append_nil]; omega)
  rw [hcs, List.append_nil] at hread
  have hskip : skipSpace (c :: cs) = c :: cs := skipSpace_cons hc cs
  have hdocument : readDocument (c :: cs) = .ok v := by
    unfold readDocument
    split
    · rename_i heq
      exact absurd (List.cons.inj heq).1 hmark
    · rw [hskip, hread]
      rfl
  rw [writeIndented, hcs, parseChars, hdocument]

/-- A value is what its text is read as. -/
theorem parse_writeIndented (step : Nat) (h : v.IsPlain) :
    Json.parse (writeIndented step v) = .ok v :=
  parseChars_writeIndented step h

/-- An object is what the octets of its text are read as. -/
theorem parseOctets_writeIndented (step : Nat) {m : Members} (h : (Value.object m).IsPlain) :
    parseOctets (Text.utf8 (writeIndented step (.object m))) = .ok (.object m) :=
  parseOctets_utf8 (parse_writeIndented step h)

end ContractDrift.Json
