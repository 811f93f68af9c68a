/-
Places of violations as JSON pointers.

`partAt?` follows a path into a document.  `pointed?` is how RFC 6901 evaluates a pointer: the
text is cut at the slashes, the escapes `~1` and `~0` of each piece are resolved, and the pieces
are followed as keys of objects and indexes of arrays.  A place is written without escapes, and
`pointed?_placeOf_iff` says what comes of it: the place of a path that leads to a part points to
that part exactly if no key on the path holds a slash or a tilde.  For two places to tell two paths
of one document apart it is enough that no key holds a slash (`eq_of_placeOf_eq`).
-/
import Mathlib.Data.List.Forall2
import Mathlib.Data.List.Nodup
import ContractDrift.Proofs.Json.Octets
import ContractDrift.Proofs.Text.Split
import ContractDrift.Schema.Findings

namespace ContractDrift.Schema

open ContractDrift.Json (Value Members)
open ContractDrift.Text (splitAll splitAll_ne_nil splitAll_of_not_mem intercalate_splitAll)

/-! ## Paths -/

/-- The part of a document that a step leads to. -/
def stepInto? : Value → Step → Option Value
  | .object m, .key k => Members.get? m k
  | .array xs, .index i => xs[i]?
  | _, _ => none

/-- The part of a document that a path leads to. -/
def partAt? : Value → List Step → Option Value
  | v, [] => some v
  | v, s :: path => (stepInto? v s).bind (partAt? · path)

/-- No object within a document has a key twice. -/
def KeysOnce (v : Value) : Prop :=
  ∀ path (m : Members), partAt? v path = some (.object m) → m.keys.Nodup

/-- A path can be followed into a document up to its last step, and if this step leads to no
part, then it is because the object there has no such key. -/
inductive Fits : Value → List Step → Prop
  | whole (v : Value) : Fits v []
  | absent {m : Members} {k : String} (h : m.get? k = none) : Fits (.object m) [.key k]
  | step {v part : Value} {s : Step} {path : List Step} (h : stepInto? v s = some part)
      (rest : Fits part path) : Fits v (s :: path)

variable {v part : Value} {s : Step} {path path' : List Step}

theorem partAt?_cons (h : stepInto? v s = some part) (path : List Step) :
    partAt? v (s :: path) = partAt? part path := by
  rw [partAt?, h, Option.bind_some]

theorem KeysOnce.keys {m : Members} (h : KeysOnce (.object m)) : m.keys.Nodup := h [] m rfl

theorem KeysOnce.inPart (h : KeysOnce v) (hs : stepInto? v s = some part) : KeysOnce part :=
  fun path m hm => h (s :: path) m (by rwa [partAt?_cons hs])

theorem Fits.of_partAt? (h : (partAt? v path).isSome) : Fits v path := by
  induction path generalizing v with
  | nil => exact .whole v
  | cons s path ih =>
    cases hs : stepInto? v s with
    | none => simp [partAt?, hs] at h
    | some part => exact .step hs (ih (by rwa [partAt?_cons hs] at h))

theorem Fits.concat {m : Members} {k : String} (h : partAt? v path = some (.object m))
    (hk : m.get? k = none) : Fits v (path ++ [.key k]) := by
  induction path generalizing v with
  | nil =>
    obtain rfl : v = .object m := by simpa [partAt?] using h
    exact .absent hk
  | cons s path ih =>
    cases hs : stepInto? v s with
    | none => simp [partAt?, hs] at h
    | some part => exact .step hs (ih (by rwa [partAt?_cons hs] at h))

/-! ## Texts of steps -/

theorem toList_text_index (i : Nat) : (Step.index i).text.toList = Nat.toDigits 10 i := by
  rw [Step.text, Nat.toString_eq_repr, Nat.toList_repr]

theorem text_index_inj {i j : Nat} (h : (Step.index i).text = (Step.index j).text) : i = j := by
  rw [← String.toList_inj, toList_text_index, toList_text_index] at h
  rw [← Nat.ofDigitChars_ten_toDigits (n := i), h, Nat.ofDigitChars_ten_toDigits]

theorem not_mem_text_index (i : Nat) {c : Char} (hc : c.isDigit = false) :
    c ∉ (Step.index i).text.toList := by
  rw [toList_text_index]
  intro h
  have := Nat.isDigit_of_mem_toDigits (by decide) (by decide) h
  rw [hc] at this
  contradiction

/-- Steps with one text that lead into one value are the same step. -/
theorem eq_of_text_eq {s' : Step} {part' : Value} (hs : stepInto? v s = some part)
    (hs' : stepInto? v s' = some part') (h : s.text = s'.text) : s = s' := by
  -- a value has keys or indices below it, never both
  cases v with
  | object m =>
    cases s with
    | index i => simp [stepInto?] at hs
    | key k =>
      cases s' with
      | index i => simp [stepInto?] at hs'
      | key k' => exact congrArg Step.key h
  | array xs =>
    cases s with
    | key k => simp [stepInto?] at hs
    | index i =>
      cases s' with
      | key k => simp [stepInto?] at hs'
      | index j => exact congrArg Step.index (text_index_inj h)
  | _ => simp [stepInto?] at hs

/-- The texts of its steps tell a path from every other path that fits. -/
theorem Fits.eq_of_texts (h : Fits v path) (h' : Fits v path')
    (htexts : path.map Step.text = path'.map Step.text) : path = path' := by
  -- both go down the same value, and its shape tells an index from a key with the same text
  induction h generalizing path' with
  | whole => exact (List.map_eq_nil_iff.mp htexts.symm).symm
  | absent hk =>
    cases h' with
    | whole => simp at htexts
    | absent => simpa [Step.text] using htexts
    | @step _ _ s' p' hs rest =>
      obtain ⟨hhead, htail⟩ := List.cons.inj htexts
      obtain rfl : p' = [] := List.map_eq_nil_iff.mp htail.symm
      cases s' with
      | key k' => exact congrArg (fun k => [Step.key k]) hhead
      | index i => simp [stepInto?] at hs
  | @step v part s p hs rest ih =>
    cases h' with
    | whole => simp at htexts
    | absent hk =>
      obtain ⟨hhead, htail⟩ := List.cons.inj htexts
      obtain rfl : p = [] := List.map_eq_nil_iff.mp htail
      cases s with
      | key k => exact congrArg (fun k => [Step.key k]) hhead
      | index i => simp [stepInto?] at hs
    | @step _ _ s' p' hs' rest' =>
      obtain ⟨hhead, htail⟩ := List.cons.inj htexts
      obtain rfl := eq_of_text_eq hs hs' hhead
      obtain rfl : part = _ := Option.some.inj (hs.symm.trans hs')
      rw [ih rest' htail]

/-! ## Pointers -/

/-- A piece of a pointer with its escapes resolved; nothing for a tilde that is no escape. -/
def unescape? : List Char → Option (List Char)
  | [] => some []
  | '~' :: '0' :: r => (unescape? r).map ('~' :: ·)
  | '~' :: '1' :: r => (unescape? r).map ('/' :: ·)
  | '~' :: _ => none
  | c :: r => (unescape? r).map (c :: ·)

/-- The step into a value that a piece of a pointer stands for: any text is a key of an object,
and an index of an array is written in decimal digits, without leading zeros. -/
def stepOf? : Value → List Char → Option Step
  | .object _, token => some (.key (String.ofList token))
  | .array xs, token =>
    ((List.range xs.length).find? fun i => (toString i).toList = token).map Step.index
  | _, _ => none

/-- The path into a document along the pieces of a pointer; nothing when they lead to no part. -/
def follow? : Value → List (List Char) → Option (List Step)
  | _, [] => some []
  | v, piece :: pieces => do
    let token ← unescape? piece
    let s ← stepOf? v token
    let part ← stepInto? v s
    let rest ← follow? part pieces
    return s :: rest

/-- The path to the part of a document that a JSON pointer points to. -/
def pointed? (v : Value) (pointer : String) : Option (List Step) :=
  match splitAll '/' pointer.toList with
  | [] :: pieces => follow? v pieces
  | _ => none

/-- A piece without a tilde stands for itself. -/
theorem unescape?_of_not_mem {cs : List Char} (h : '~' ∉ cs) : unescape? cs = some cs := by
  induction cs with
  | nil => rfl
  | cons c r ih =>
    rw [List.mem_cons, not_or] at h
    unfold unescape?
    split <;> simp_all

/-- A piece with a tilde stands for a shorter text, if for any. -/
theorem not_mem_of_unescape? {cs token : List Char} (h : unescape? cs = some token) :
    token.length ≤ cs.length ∧ (token.length = cs.length → '~' ∉ cs) := by
  -- every escape that is read makes the token shorter than what is written
  fun_induction unescape? cs generalizing token with
  | case1 => simp_all
  | case2 r ih =>
    obtain ⟨t, ht, rfl⟩ := Option.map_eq_some_iff.mp h
    have := (ih ht).1
    simp only [List.length_cons]
    omega
  | case3 r ih =>
    obtain ⟨t, ht, rfl⟩ := Option.map_eq_some_iff.mp h
    have := (ih ht).1
    simp only [List.length_cons]
    omega
  | case4 => simp at h
  | case5 c r hc0 hc1 hc ih =>
    obtain ⟨t, ht, rfl⟩ := Option.map_eq_some_iff.mp h
    have hne : '~' ≠ c := fun e => hc e.symm
    have := ih ht
    simp only [List.length_cons, List.mem_cons, not_or]
    exact ⟨by omega, fun e => ⟨hne, this.2 (by omega)⟩⟩

theorem unescape?_self_iff {cs : List Char} : unescape? cs = some cs ↔ '~' ∉ cs :=
  ⟨fun h => (not_mem_of_unescape? h).2 rfl, unescape?_of_not_mem⟩

theorem stepOf?_eq_some_iff {token : List Char} (hs : stepInto? v s = some part) :
    stepOf? v token = some s ↔ s.text.toList = token := by
  cases v with
  | object m =>
    cases s with
    | index i => simp [stepInto?] at hs
    | key k => simp [stepOf?, Step.text, ← String.toList_inj, eq_comm]
  | array xs =>
    cases s with
    | key k => simp [stepInto?] at hs
    | index i =>
      have hi : i < xs.length := (List.getElem?_eq_some_iff.mp hs).1
      constructor
      · intro h
        obtain ⟨j, hj, hji⟩ := Option.map_eq_some_iff.mp h
        obtain rfl : j = i := Step.index.inj hji
        simpa [Step.text] using List.find?_some hj
      · intro h
        -- the first index with this text is the only one
        cases hfind : (List.range xs.length).find? fun i => (toString i).toList = token with
        | none =>
          have := List.find?_eq_none.mp hfind i (List.mem_range.mpr hi)
          exact absurd h (by simpa [Step.text] using this)
        | some j =>
          have hj : (toString j).toList = token := by simpa using List.find?_some hfind
          have hij : j = i := text_index_inj (String.toList_inj.mp (hj.trans h.symm))
          rw [stepOf?, hfind, hij]
          rfl
  | _ => simp [stepInto?] at hs

/-- Pieces are followed along a path exactly if it leads to a part and each of them stands for
the text of its step. -/
theorem follow?_eq_some_iff {pieces : List (List Char)} :
    follow? v pieces = some path ↔
      List.Forall₂ (fun piece s => unescape? piece = some s.text.toList) pieces path ∧
        (partAt? v path).isSome := by
  induction pieces generalizing v path with
  | nil =>
    rw [follow?, Option.some.injEq, List.forall₂_nil_left_iff]
    constructor
    · rintro rfl
      exact ⟨rfl, rfl⟩
    · rintro ⟨rfl, -⟩
      rfl
  | cons piece pieces ih =>
    constructor
    · intro h
      simp only [follow?, Option.bind_eq_bind, Option.bind_eq_some_iff, Option.pure_def,
        Option.some.injEq] at h
      obtain ⟨token, htoken, s, hs, part, hpart, rest, hrest, rfl⟩ := h
      obtain ⟨hpieces, hsome⟩ := ih.mp hrest
      refine ⟨.cons ?_ hpieces, by rwa [partAt?_cons hpart]⟩
      rw [htoken, (stepOf?_eq_some_iff hpart).mp hs]
    · rintro ⟨hpieces, hsome⟩
      cases hpieces with
      | @cons _ s _ p htoken hpieces =>
        -- a path that leads to a part takes a step at its first key or index
        cases hpart : stepInto? v s with
        | none => simp [partAt?, hpart] at hsome
        | some part =>
          have hrest := ih.mpr ⟨hpieces, by rwa [partAt?_cons hpart] at hsome⟩
          have hs := (stepOf?_eq_some_iff hpart).mpr (rfl : s.text.toList = _)
          simp [follow?, htoken, hs, hpart, hrest]

/-! ## Places -/

/-- No key of a path holds a character. -/
def KeysLack (c : Char) (path : List Step) : Prop := ∀ k, Step.key k ∈ path → c ∉ k.toList

/-- A path whose place needs no escapes. -/
def IsPlainPath (path : List Step) : Prop := KeysLack '/' path ∧ KeysLack '~' path

/-- The text that a path is reported by. -/
def placeOf (path : List Step) : String := String.join (path.map fun s => "/" ++ s.text)

theorem Violation.place_eq (x : Violation) : x.place = placeOf x.path := rfl

theorem keysLack_iff {c : Char} (hc : c.isDigit = false) :
    KeysLack c path ↔ ∀ s ∈ path, c ∉ s.text.toList := by
  constructor
  · intro h s hs
    cases s with
    | key k => exact h k hs
    | index i => exact not_mem_text_index i hc
  · exact fun h k hk => h (.key k) hk

theorem toList_placeOf (path : List Step) :
    (placeOf path).toList = path.flatMap fun s => '/' :: s.text.toList := by
  rw [placeOf, String.toList_join, List.flatMap_map]
  refine congrArg (path.flatMap ·) (funext fun s => ?_)
  rw [String.toList_append]
  rfl

/-- The pieces of a place are those of its steps, one after the other. -/
theorem splitAll_append_place (cs : List Char) (path : List Step) :
    splitAll '/' (cs ++ path.flatMap fun s => '/' :: s.text.toList) =
      splitAll '/' cs ++ path.flatMap fun s => splitAll '/' s.text.toList := by
  induction path generalizing cs with
  | nil => simp
  | cons s path ih =>
    rw [List.flatMap_cons, List.flatMap_cons, List.cons_append, Text.splitAll_append_sep, ih]

theorem pointed?_placeOf (v : Value) (path : List Step) :
    pointed? v (placeOf path) = follow? v (path.flatMap fun s => splitAll '/' s.text.toList) := by
  have hpieces := splitAll_append_place [] path
  rw [List.nil_append, ← toList_placeOf] at hpieces
  rw [pointed?, hpieces]
  rfl

theorem splitAll_eq_singleton {cs : List Char} (h : (splitAll '/' cs).length = 1) :
    '/' ∉ cs ∧ splitAll '/' cs = [cs] := by
  obtain ⟨piece, hpiece⟩ := List.length_eq_one_iff.mp h
  have hcs : cs = piece := by
    rw [← intercalate_splitAll '/' cs, hpiece]
    simp
  exact ⟨hcs ▸ Text.not_mem_splitAll (hpiece ▸ List.mem_singleton_self piece), hcs ▸ hpiece⟩

/-- There are as many pieces as steps only if no step is cut. -/
theorem length_le_length_pieces (path : List Step) :
    path.length ≤ (path.flatMap fun s => splitAll '/' s.text.toList).length := by
  induction path with
  | nil => exact Nat.zero_le _
  | cons s path ih =>
    have := List.length_pos_iff.mpr (splitAll_ne_nil '/' s.text.toList)
    rw [List.flatMap_cons, List.length_append, List.length_cons]
    omega

theorem forall₂_pieces_iff :
    List.Forall₂ (fun piece s => unescape? piece = some s.text.toList)
      (path.flatMap fun s => splitAll '/' s.text.toList) path ↔
      ∀ s ∈ path, '/' ∉ s.text.toList ∧ '~' ∉ s.text.toList := by
  induction path with
  | nil => simp
  | cons s path ih =>
    rw [List.flatMap_cons, List.forall_mem_cons, ← ih]
    constructor
    -- each step has at least one piece, and the lengths are equal, so each has one only
    · intro h
      have hlength := h.length_eq
      have hpos := List.length_pos_iff.mpr (splitAll_ne_nil '/' s.text.toList)
      have hrest := length_le_length_pieces path
      rw [List.length_append, List.length_cons] at hlength
      have hone : (splitAll '/' s.text.toList).length = 1 := by omega
      obtain ⟨hslash, hpiece⟩ := splitAll_eq_singleton hone
      rw [hpiece, List.singleton_append, List.forall₂_cons] at h
      exact ⟨⟨hslash, unescape?_self_iff.mp h.1⟩, h.2⟩
    · rintro ⟨⟨hslash, htilde⟩, h⟩
      rw [splitAll_of_not_mem hslash, List.singleton_append]
      exact .cons (unescape?_of_not_mem htilde) h

/-- The place of a path points to the path exactly if it leads to a part and no key on it holds
a slash or a tilde. -/
theorem pointed?_placeOf_iff :
    pointed? v (placeOf path) = some path ↔ (partAt? v path).isSome ∧ IsPlainPath path := by
  have hplain : IsPlainPath path ↔ ∀ s ∈ path, '/' ∉ s.text.toList ∧ '~' ∉ s.text.toList := by
    rw [IsPlainPath, keysLack_iff (by decide), keysLack_iff (by decide)]
    exact ⟨fun h s hs => ⟨h.1 s hs, h.2 s hs⟩, fun h => ⟨fun s hs => (h s hs).1,
      fun s hs => (h s hs).2⟩⟩
  rw [pointed?_placeOf, follow?_eq_some_iff, forall₂_pieces_iff, hplain, and_comm]

/-- Two paths of one document whose keys hold no slash have different places. -/
theorem eq_of_placeOf_eq (h : Fits v path) (h' : Fits v path') (hslash : KeysLack '/' path)
    (hslash' : KeysLack '/' path') (hplace : placeOf path = placeOf path') : path = path' := by
  have hpieces {p : List Step} (hp : KeysLack '/' p) :
      splitAll '/' (placeOf p).toList = [] :: p.map fun s => s.text.toList := by
    rw [toList_placeOf, ← List.nil_append (p.flatMap _), splitAll_append_place]
    rw [keysLack_iff (by decide)] at hp
    rw [List.flatMap_congr fun s hs => splitAll_of_not_mem (hp s hs), ← List.map_eq_flatMap]
    rfl
  have htexts := (hpieces hslash).symm.trans ((congrArg _ (congrArg _ hplace)).trans
    (hpieces hslash'))
  refine h.eq_of_texts h' (List.map_injective_iff.mpr (fun a b => String.toList_inj.mp) ?_)
  rw [List.map_map, List.map_map]
  exact (List.cons.inj htexts).2

/-! ## Decoded documents -/

theorem keysOnce_of_steps (hkeys : ∀ m : Members, v = .object m → m.keys.Nodup)
    (hparts : ∀ s part, stepInto? v s = some part → KeysOnce part) : KeysOnce v := by
  intro path m h
  cases path with
  | nil => exact hkeys m (Option.some.inj h)
  | cons s path =>
    obtain ⟨part, hpart, hm⟩ := Option.bind_eq_some_iff.mp h
    exact hparts s part hpart path m hm

theorem keysOnce_array {xs : List Value} (h : ∀ x ∈ xs, KeysOnce x) : KeysOnce (.array xs) := by
  refine keysOnce_of_steps (fun m hm => nomatch hm) fun s part hs => ?_
  cases s with
  | key k => simp [stepInto?] at hs
  | index i => exact h part (List.mem_of_getElem? hs)

theorem keysOnce_object {m : Members} (hm : m.keys.Nodup)
    (h : ∀ k v, m.get? k = some v → KeysOnce v) : KeysOnce (.object m) := by
  refine keysOnce_of_steps (fun m' hm' => Value.object.inj hm' ▸ hm) fun s part hs => ?_
  cases s with
  | key k => exact h k part hs
  | index i => simp [stepInto?] at hs

theorem keysOnce_empty : KeysOnce (.object []) :=
  keysOnce_object (show ([] : List String).Nodup from List.nodup_nil) fun k v h => by
    simp [Members.get?] at h

theorem keysOnce_leaf (h : v.isLeaf = true) : KeysOnce v := by
  refine keysOnce_of_steps (fun m hm => ?_) fun s part hs => ?_
  · rw [hm] at h
    cases h
  · cases v with
    | object m => cases h
    | array xs => cases h
    | _ => simp [stepInto?] at hs

theorem mem_keys_insert {m : Members} {k key : String} {value : Value}
    (h : k ∈ (m.insert key value).keys) : k = key ∨ k ∈ m.keys := by
  induction m with
  | nil => exact Or.inl (List.mem_singleton.mp h)
  | cons e r ih =>
    rw [Members.insert] at h
    split at h
    · exact Or.inr h
    · rcases List.mem_cons.mp h with rfl | h
      · exact Or.inr List.mem_cons_self
      · exact (ih h).imp_right (List.mem_cons_of_mem _)

theorem nodup_keys_insert {m : Members} (h : m.keys.Nodup) (key : String) (value : Value) :
    (m.insert key value).keys.Nodup := by
  induction m with
  | nil => exact List.nodup_singleton key
  | cons e r ih =>
    obtain ⟨hhead, hrest⟩ := List.nodup_cons.mp h
    rw [Members.insert]
    split
    · exact h
    · rename_i hne
      exact List.nodup_cons.mpr
        ⟨fun hmem => (mem_keys_insert hmem).elim hne hhead, ih hrest⟩

theorem keysOnce_insert {m : Members} (h : KeysOnce (.object m)) (key : String) {value : Value}
    (hvalue : KeysOnce value) : KeysOnce (.object (m.insert key value)) := by
  refine keysOnce_object (nodup_keys_insert h.keys key value) fun k v hv => ?_
  by_cases hk : key = k
  · subst hk
    rw [Members.get?_insert_self] at hv
    exact Option.some.inj hv ▸ hvalue
  · rw [Members.get?_insert_of_ne m value hk] at hv
    exact h.inPart (s := .key k) hv

/-- What is read with a bound on the depth of the recursion has each key once. -/
structure ReadsKeysOnce (n : Nat) : Prop where
  value : ∀ {cs r : List Char} {v : Value}, Json.readValue n cs = .ok (v, r) → KeysOnce v
  items : ∀ {acc : List Value} {cs r : List Char} {v : Value}, (∀ x ∈ acc, KeysOnce x) →
    Json.readItems n acc cs = .ok (v, r) → KeysOnce v
  members : ∀ {acc : Members} {cs r : List Char} {v : Value}, KeysOnce (.object acc) →
    Json.readMembers n acc cs = .ok (v, r) → KeysOnce v

theorem ReadsKeysOnce.value_succ {n : Nat} (hreads : ReadsKeysOnce n) {cs r : List Char}
    (h : Json.readValue (n + 1) cs = .ok (v, r)) : KeysOnce v := by
  -- texts, words and numbers hold no objects; the members of an object are inserted one by one
  unfold Json.readValue at h
  split at h
  · obtain ⟨⟨text, rest⟩, -, hv⟩ := bind_eq_ok_iff.mp h
    rw [(Prod.mk.inj (pure_eq_ok_iff.mp hv)).1]
    exact keysOnce_leaf rfl
  · split at h
    · rw [← (Prod.mk.inj (Except.ok.inj h)).1]
      exact keysOnce_empty
    · exact hreads.members keysOnce_empty h
  · split at h
    · rw [← (Prod.mk.inj (Except.ok.inj h)).1]
      exact keysOnce_array (List.forall_mem_nil _)
    · exact hreads.items (List.forall_mem_nil _) h
  · split at h
    · rename_i found hfound
      obtain rfl : found = (v, r) := Except.ok.inj h
      exact keysOnce_leaf (Json.isLeaf_of_readWord? hfound)
    · exact keysOnce_leaf (Json.isLeaf_of_readNumber h)

theorem ReadsKeysOnce.items_succ {n : Nat} (hreads : ReadsKeysOnce n) {acc : List Value}
    {cs r : List Char} (hacc : ∀ x ∈ acc, KeysOnce x)
    (h : Json.readItems (n + 1) acc cs = .ok (v, r)) : KeysOnce v := by
  unfold Json.readItems at h
  obtain ⟨⟨x, rest⟩, hx, h⟩ := bind_eq_ok_iff.mp h
  have hacc' : ∀ y ∈ x :: acc, KeysOnce y := List.forall_mem_cons.mpr ⟨hreads.value hx, hacc⟩
  dsimp only at h
  split at h
  · rw [← (Prod.mk.inj (Except.ok.inj h)).1]
    exact keysOnce_array fun y hy => hacc' y (List.mem_reverse.mp hy)
  · exact hreads.items hacc' h
  · exact nomatch h

theorem ReadsKeysOnce.members_succ {n : Nat} (hreads : ReadsKeysOnce n) {acc : Members}
    {cs r : List Char} (hacc : KeysOnce (.object acc))
    (h : Json.readMembers (n + 1) acc cs = .ok (v, r)) : KeysOnce v := by
  unfold Json.readMembers at h
  split at h
  · obtain ⟨⟨key, rest⟩, -, h⟩ := bind_eq_ok_iff.mp h
    dsimp only at h
    split at h
    · obtain ⟨⟨x, rest'⟩, hx, h⟩ := bind_eq_ok_iff.mp h
      -- a key that is met again takes the place of the earlier one
      have hacc' := keysOnce_insert hacc key (hreads.value hx)
      dsimp only at h
      split at h
      · rw [← (Prod.mk.inj (Except.ok.inj h)).1]
        exact hacc'
      · exact hreads.members hacc' h
      · cases h
    · cases h
  · cases h

theorem readsKeysOnce (n : Nat) : ReadsKeysOnce n := by
  induction n with
  | zero => exact ⟨nofun, fun _ => nofun, fun _ => nofun⟩
  | succ n ih => exact ⟨ih.value_succ, ih.items_succ, ih.members_succ⟩

/-- A decoded document has no key twice in one object. -/
theorem keysOnce_of_parse {s : String} (h : Json.parse s = .ok v) : KeysOnce v := by
  obtain ⟨n, rest, hvalue⟩ := Json.exists_readValue_of_parse h
  exact (readsKeysOnce n).value hvalue

end ContractDrift.Schema
