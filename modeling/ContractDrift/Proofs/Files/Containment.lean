/-
Paths stay inside the root.

A written path is walked part by part, from the root of a reader or, when it is absolute, from
the root of the tree (`LeadsTo`).  A reader answers where the walk ends exactly when this is
its root or lies below it (`resolve_eq_ok_iff`), though it compares nothing but texts;
`resolve_contained` says what this means for the paths that are answered.

Design notes: the text of a path has a slash before each component, so one text starts with
another and a slash exactly when the components do (`isBelow_iff`).  This needs the components
to be names (`IsName`), and those of a walk are.  Below the root of the tree the texts never
fit, because its own text is a slash already.
-/
import ContractDrift.Proofs.Files.Reader
import ContractDrift.Proofs.Text.Split

namespace ContractDrift.Files

/-! ## Names -/

/-- A text that can name an entry of a directory. -/
structure IsName (s : String) : Prop where
  ne_empty : s ≠ ""
  ne_here : s ≠ "."
  ne_back : s ≠ ".."
  no_slash : '/' ∉ s.toList
  no_null : '\x00' ∉ s.toList

instance (s : String) : Decidable (IsName s) :=
  decidable_of_iff (s ≠ "" ∧ s ≠ "." ∧ s ≠ ".." ∧ '/' ∉ s.toList ∧ '\x00' ∉ s.toList)
    ⟨fun ⟨h₁, h₂, h₃, h₄, h₅⟩ => ⟨h₁, h₂, h₃, h₄, h₅⟩,
      fun ⟨h₁, h₂, h₃, h₄, h₅⟩ => ⟨h₁, h₂, h₃, h₄, h₅⟩⟩

/-- A path of names only. -/
def Path.IsCanonical (p : Path) : Prop := ∀ c ∈ p, IsName c

instance (p : Path) : Decidable p.IsCanonical :=
  inferInstanceAs (Decidable (∀ c ∈ p, IsName c))

theorem Path.IsCanonical.not_mem_back {p : Path} (h : p.IsCanonical) : ".." ∉ p :=
  fun hmem => (h _ hmem).ne_back rfl

/-- A path as it can be written, with steps back between its names. -/
def Path.IsWritten (p : Path) : Prop := ∀ c ∈ p, c = ".." ∨ IsName c

theorem Path.IsCanonical.isWritten {p : Path} (h : p.IsCanonical) : p.IsWritten :=
  fun c hc => .inr (h c hc)

/-! ## Walks -/

/-- Where one part of a written path leads: nothing and a single point stay, two points lead
back, at the root of the tree nowhere, and a name leads down. -/
def stepFrom (p : Path) (part : String) : Path :=
  if part = "" ∨ part = "." then p
  else if part = ".." then p.dropLast
  else p ++ [part]

/-- Where the parts of a written path lead, one after the other. -/
def walkFrom (p : Path) (parts : List String) : Path := parts.foldl stepFrom p

/-- The parts of a written path: what stands between its slashes. -/
structure AreParts (written : String) (parts : List String) : Prop where
  text_eq : written = "/".intercalate parts
  ne_nil : parts ≠ []
  no_slash : ∀ part ∈ parts, '/' ∉ part.toList

/-- Where a written path leads from a root; an absolute one starts at the root of the tree. -/
def LeadsTo (root : Path) (written : String) (p : Path) : Prop :=
  ∃ parts, AreParts written parts ∧
    p = walkFrom (if written.toList.head? = some '/' then [] else root) parts

theorem areParts_iff {written : String} {parts : List String} :
    AreParts written parts ↔ parts = (Text.splitAll '/' written.toList).map String.ofList := by
  constructor
  · intro h
    have htext : written.toList = ['/'].intercalate (parts.map String.toList) := by
      rw [h.text_eq, String.toList_intercalate]
      rfl
    rw [htext, Text.splitAll_intercalate (by simpa using h.ne_nil)
      (by simpa using h.no_slash), List.map_map]
    simp
  · rintro rfl
    refine ⟨?_, by simpa using Text.splitAll_ne_nil '/' written.toList, ?_⟩
    · apply String.toList_inj.mp
      rw [String.toList_intercalate, List.map_map]
      simp only [Function.comp_def, String.toList_ofList, List.map_id']
      exact (Text.intercalate_splitAll '/' written.toList).symm
    · intro part hpart
      obtain ⟨cs, hcs, rfl⟩ := List.mem_map.mp hpart
      simpa using Text.not_mem_splitAll hcs

theorem foldl_of_not_mem {parts : List String} (h : ".." ∉ parts) (acc : List String) :
    parts.foldl (fun acc p => if p = ".." then acc.drop 1 else p :: acc) acc =
      parts.reverse ++ acc := by
  induction parts generalizing acc with
  | nil => rfl
  | cons part parts ih =>
    rw [List.mem_cons, not_or] at h
    rw [List.foldl_cons, if_neg (Ne.symm h.1), ih h.2, List.reverse_cons, List.append_assoc]
    rfl

theorem normalize_of_not_mem {p : Path} (h : ".." ∉ p) : normalize p = p := by
  rw [normalize, foldl_of_not_mem h, List.append_nil, List.reverse_reverse]

theorem not_mem_dropLast {p : Path} {c : String} (h : c ∉ p) : c ∉ p.dropLast :=
  fun hmem => h ((List.dropLast_sublist p).subset hmem)

/-- A step back takes away what stands before it. -/
theorem normalize_back {p : Path} (h : ".." ∉ p) (parts : List String) :
    normalize (p ++ ".." :: parts) = normalize (p.dropLast ++ parts) := by
  have hback : (p.reverse ++ []).drop 1 = p.dropLast.reverse ++ [] := by simp
  simp only [normalize, List.foldl_append, foldl_of_not_mem h,
    foldl_of_not_mem (not_mem_dropLast h), List.foldl_cons, if_pos, hback]

/-- The removal of steps back ends where the walk does. -/
theorem normalize_append {p : Path} (h : ".." ∉ p) (parts : List String) :
    normalize (p ++ parts.filter fun part => part != "" && part != ".") = walkFrom p parts := by
  induction parts generalizing p with
  | nil => rw [List.filter_nil, List.append_nil, normalize_of_not_mem h, walkFrom, List.foldl_nil]
  | cons part parts ih =>
    rw [walkFrom, List.foldl_cons, stepFrom]
    by_cases hstay : part = "" ∨ part = "."
    · rw [if_pos hstay, List.filter_cons_of_neg (by rcases hstay with rfl | rfl <;> simp)]
      exact ih h
    · rw [if_neg hstay]
      rw [not_or] at hstay
      rw [List.filter_cons_of_pos (by simp [hstay])]
      -- a step back takes away the last component, which is a name, and any other part is one
      by_cases hback : part = ".."
      · rw [if_pos hback, hback, normalize_back h]
        exact ih (not_mem_dropLast h)
      · rw [if_neg hback, List.append_cons]
        exact ih (by simp [h, Ne.symm hback])

/-- A written path resolves to where it leads. -/
theorem leadsTo_iff {root p : Path} (h : root.IsCanonical) (written : String) :
    LeadsTo root written p ↔ p = Files.resolve root written := by
  have hcomponents : components written =
      ((Text.splitAll '/' written.toList).map String.ofList).filter
        fun part => part != "" && part != "." := rfl
  have habsolute : isAbsolute written = true ↔ written.toList.head? = some '/' := by
    simp [isAbsolute]
  simp only [LeadsTo, areParts_iff, exists_eq_left, Files.resolve, hcomponents]
  by_cases ha : written.toList.head? = some '/'
  · rw [if_pos ha, if_pos (habsolute.mpr ha), ← normalize_append List.not_mem_nil,
      List.nil_append]
  · rw [if_neg ha, if_neg (habsolute.not.mpr ha), normalize_append h.not_mem_back]

/-- A written path leads to one place. -/
theorem LeadsTo.unique {root p q : Path} {written : String} (h : root.IsCanonical)
    (hp : LeadsTo root written p) (hq : LeadsTo root written q) : p = q :=
  ((leadsTo_iff h written).mp hp).trans ((leadsTo_iff h written).mp hq).symm

/-! ## Names in, names out -/

/-- One step of a walk keeps a path of names. -/
theorem isCanonical_stepFrom {p : Path} {part : String} (h : p.IsCanonical)
    (hslash : '/' ∉ part.toList) (hnull : '\x00' ∉ part.toList) :
    (stepFrom p part).IsCanonical := by
  unfold stepFrom
  split
  · exact h
  · rename_i hstay
    rw [not_or] at hstay
    split
    · exact fun c hc => h c ((List.dropLast_sublist p).subset hc)
    · rename_i hback
      intro c hc
      rcases List.mem_append.mp hc with hc | hc
      · exact h c hc
      · obtain rfl := List.mem_singleton.mp hc
        exact ⟨hstay.1, hstay.2, hback, hslash, hnull⟩

theorem isCanonical_walkFrom {p : Path} {parts : List String} (h : p.IsCanonical)
    (hslash : ∀ part ∈ parts, '/' ∉ part.toList)
    (hnull : ∀ part ∈ parts, '\x00' ∉ part.toList) : (walkFrom p parts).IsCanonical :=
  List.foldlRecOn (motive := Path.IsCanonical) _ _ h fun _ h part hmem =>
    isCanonical_stepFrom h (hslash part hmem) (hnull part hmem)

theorem isCanonical_resolve {root : Path} {written : String} (h : root.IsCanonical)
    (hnull : '\x00' ∉ written.toList) : (Files.resolve root written).IsCanonical := by
  obtain ⟨parts, hparts, heq⟩ := (leadsTo_iff h written).mpr rfl
  rw [heq]
  refine isCanonical_walkFrom ?_ hparts.no_slash fun part hpart hmem => ?_
  · split
    · exact fun c hc => absurd hc List.not_mem_nil
    · exact h
  · rw [areParts_iff.mp hparts] at hpart
    obtain ⟨cs, hcs, rfl⟩ := List.mem_map.mp hpart
    exact hnull (Text.mem_of_mem_splitAll hcs (by simpa using hmem))

/-! ## Texts of paths -/

/-- The parts of a path's text: nothing before its first slash, then its components. -/
theorem areParts_text {p : Path} (h : p.IsWritten) (hp : p ≠ []) :
    AreParts p.text ("" :: p) := by
  refine ⟨?_, List.cons_ne_nil _ _, List.forall_mem_cons.mpr ⟨by simp, fun c hc => ?_⟩⟩
  · rw [String.intercalate_cons_of_ne_nil hp]
    rfl
  · rcases h c hc with rfl | hname
    · decide
    · exact hname.no_slash

/-- A path is read back from its text, with its steps back. -/
theorem components_text {p : Path} (h : p.IsWritten) : components p.text = p := by
  by_cases hp : p = []
  · rw [hp]
    rfl
  · have hkept : p.filter (fun part => part != "" && part != ".") = p := by
      refine List.filter_eq_self.mpr fun c hc => ?_
      rcases h c hc with rfl | hname
      · decide
      · simp [hname.ne_empty, hname.ne_here]
    rw [components, ← areParts_iff.mp (areParts_text h hp)]
    exact hkept

theorem isAbsolute_text (p : Path) : isAbsolute p.text = true := by
  simp [isAbsolute, Path.text]

theorem resolve_text {p : Path} (h : p.IsWritten) (root : Path) :
    Files.resolve root p.text = normalize p := by
  rw [Files.resolve, if_pos (isAbsolute_text p), components_text h]

/-- The text of a path below the root of the tree has a slash before each component. -/
theorem toList_text {p : Path} (h : p ≠ []) :
    p.text.toList = p.flatMap fun c => '/' :: c.toList := by
  induction p with
  | nil => exact absurd rfl h
  | cons c p ih =>
    cases p with
    | nil => simp [Path.text]
    | cons d p =>
      have ih := ih (List.cons_ne_nil d p)
      rw [Path.text] at ih
      rw [Path.text, String.intercalate_cons_cons, List.flatMap_cons, ← ih]
      simp

theorem no_null_text {p : Path} (h : p.IsWritten) : '\x00' ∉ p.text.toList := by
  by_cases hp : p = []
  · rw [hp]
    decide
  · rw [toList_text hp, List.mem_flatMap]
    rintro ⟨c, hc, hmem⟩
    rcases h c hc with rfl | hname
    · exact absurd hmem (by decide)
    · exact hname.no_null (by simpa using hmem)

/-- A component is cut off at the slash after it. -/
theorem prefix_cons_iff {a b as bs : List Char} (ha : '/' ∉ a) (hb : '/' ∉ b)
    (hbs : bs = [] ∨ ∃ cs, bs = '/' :: cs) :
    a ++ '/' :: as <+: b ++ bs ↔ a = b ∧ '/' :: as <+: bs := by
  constructor
  · rintro ⟨rest, hrest⟩
    rw [List.append_assoc, List.cons_append] at hrest
    -- both texts are cut at their first slash
    have hcut := Text.splitFirst_append ha (as ++ rest)
    rw [hrest] at hcut
    rcases hbs with rfl | ⟨cs, rfl⟩
    · rw [List.append_nil, Text.splitFirst_eq_none hb] at hcut
      exact absurd hcut (by simp)
    · rw [Text.splitFirst_append hb, Option.some.injEq, Prod.mk.injEq] at hcut
      obtain ⟨rfl, rfl⟩ := hcut
      exact ⟨rfl, rest, rfl⟩
  · rintro ⟨rfl, h⟩
    exact (List.prefix_append_right_inj a).mpr h

theorem flatMap_slash_cases (p : Path) :
    (p.flatMap fun c => '/' :: c.toList) = [] ∨
      ∃ cs, (p.flatMap fun c => '/' :: c.toList) = '/' :: cs := by
  cases p with
  | nil => exact Or.inl rfl
  | cons c p => exact Or.inr ⟨_, rfl⟩

/-- One path starts with another and goes on exactly when the texts do. -/
theorem prefix_flatMap_iff {root p : Path} (hroot : root.IsCanonical) (hp : p.IsCanonical) :
    (root.flatMap fun c => '/' :: c.toList) ++ ['/'] <+: (p.flatMap fun c => '/' :: c.toList) ↔
      ∃ rest, rest ≠ [] ∧ p = root ++ rest := by
  induction root generalizing p with
  | nil =>
    cases p with
    | nil => simp
    | cons c p => simp
  | cons a root ih =>
    rw [Path.IsCanonical, List.forall_mem_cons] at hroot
    cases p with
    | nil => simp
    | cons b p =>
      rw [Path.IsCanonical, List.forall_mem_cons] at hp
      -- what is left of the root's text starts with a slash too, so its first component ends there
      obtain ⟨tail, htail⟩ : ∃ tail,
          (root.flatMap fun c => '/' :: c.toList) ++ ['/'] = '/' :: tail := by
        rcases flatMap_slash_cases root with h | ⟨cs, h⟩
        · exact ⟨[], by rw [h]; rfl⟩
        · exact ⟨cs ++ ['/'], by rw [h]; rfl⟩
      rw [List.flatMap_cons, List.flatMap_cons, List.append_assoc, htail, List.cons_append,
        List.cons_append, List.prefix_cons_inj,
        prefix_cons_iff hroot.1.no_slash hp.1.no_slash (flatMap_slash_cases p), ← htail,
        ih hroot.2 hp.2, String.toList_inj]
      constructor
      · rintro ⟨rfl, rest, hrest, rfl⟩
        exact ⟨rest, hrest, rfl⟩
      · rintro ⟨rest, hrest, heq⟩
        rw [List.cons_append, List.cons.injEq] at heq
        exact ⟨heq.1.symm, rest, hrest, heq.2⟩

/-- A path lies below another: it goes on from there. -/
def Path.IsBelow (p root : Path) : Prop := ∃ rest, rest ≠ [] ∧ p = root ++ rest

namespace Reader

variable {r : Reader} {p : Path} {written : String}

/-- The text of the root of the tree ends in a slash, and no path has two of them at its start: so
a reader there has nothing below it. -/
theorem isBelow_of_atTop (hnil : r.root = []) (hp : p.IsCanonical) : r.isBelow p = false := by
  have hslashes : r.root.text.toList ++ "/".toList = ['/', '/'] := by
    rw [hnil]
    rfl
  rw [isBelow, Bool.eq_false_iff, ne_eq, Text.startsWith_iff, String.toList_append, hslashes]
  cases p with
  | nil => decide
  | cons c p =>
    have hc := hp c List.mem_cons_self
    rw [toList_text (List.cons_ne_nil c p), List.flatMap_cons, List.cons_append,
      List.prefix_cons_inj]
    cases hchars : c.toList with
    | nil => exact absurd (String.toList_eq_nil_iff.mp hchars) hc.ne_empty
    | cons d ds =>
      have hd : '/' ≠ d := fun h => hc.no_slash (by rw [hchars, h]; exact List.mem_cons_self)
      simp [hd]

/-- The root of the tree is below no other path. -/
theorem isBelow_top (hne : r.root ≠ []) : r.isBelow [] = false := by
  rw [isBelow, Bool.eq_false_iff, ne_eq, Text.startsWith_iff, String.toList_append,
    toList_text hne]
  intro h
  have hlength := h.length_le
  rw [List.length_append] at hlength
  have hempty : (r.root.flatMap fun c => '/' :: c.toList).length = 0 :=
    Nat.le_zero.mp (Nat.le_of_add_le_add_right hlength)
  cases hr : r.root with
  | nil => exact hne hr
  | cons c root => simp [hr] at hempty

/-- The comparison of texts is that of components, but below the root of the tree, whose text
with a slash starts no other text. -/
theorem isBelow_iff (hroot : r.root.IsCanonical) (hp : p.IsCanonical) :
    r.isBelow p = true ↔ r.root ≠ [] ∧ p.IsBelow r.root := by
  by_cases hnil : r.root = []
  · rw [isBelow_of_atTop hnil hp]
    exact iff_of_false Bool.false_ne_true fun h => h.1 hnil
  · by_cases hpnil : p = []
    · rw [hpnil, isBelow_top hnil]
      refine iff_of_false Bool.false_ne_true ?_
      rintro ⟨-, rest, -, heq⟩
      exact hnil (List.append_eq_nil_iff.mp heq.symm).1
    · rw [isBelow, Text.startsWith_iff, String.toList_append, toList_text hnil, toList_text hpnil]
      exact (prefix_flatMap_iff hroot hp).trans (and_iff_right hnil).symm

/-- What a reader answers for a written path: where it leads, if that is its root or lies
below; but of the paths below the root of the tree it answers none. -/
theorem resolve_eq_ok_iff (hroot : r.root.IsCanonical) :
    r.resolve written = .ok p ↔
      '\x00' ∉ written.toList ∧ LeadsTo r.root written p ∧
        (p = r.root ∨ r.root ≠ [] ∧ p.IsBelow r.root) := by
  rw [resolve_eq, leadsTo_iff hroot]
  by_cases hnull : '\x00' ∈ written.toList
  · simp [hnull]
  · have hbelow := isBelow_iff hroot (isCanonical_resolve hroot hnull)
    rw [if_neg (by simpa using hnull)]
    constructor
    · intro h
      split at h
      · rename_i hinside
        obtain rfl := Except.ok.inj h
        exact ⟨hnull, rfl, hinside.imp_right hbelow.mp⟩
      · exact absurd h (by simp)
    · rintro ⟨-, rfl, hinside⟩
      rw [if_pos (hinside.imp_right hbelow.mpr)]

/-- A reader that is opened at a directory has a root of names. -/
theorem isCanonical_root {tree : Tree} {place : Path} {root : String} (hplace : place.IsCanonical)
    (h : open? tree place root = .ok r) : r.root.IsCanonical := by
  rw [open?_eq] at h
  split at h
  · exact absurd h (by simp)
  · rename_i hnull
    obtain rfl := Except.ok.inj h
    exact isCanonical_resolve hplace (by simpa using hnull)

/-- What an answered path is: its text starts at the root of the tree and has names only
between its slashes, the written path leads there, it is the root or lies below, never at or
below a sibling of the root, and it is its own answer. -/
structure IsContained (r : Reader) (written : String) (p : Path) : Prop where
  absolute : p.text.toList.head? = some '/'
  parts : p ≠ [] → AreParts p.text ("" :: p)
  canonical : p.IsCanonical
  leads : LeadsTo r.root written p
  inside : p = r.root ∨ p.IsBelow r.root
  no_sibling : ∀ parent name sibling rest, r.root = parent ++ [name] → sibling ≠ name →
    p ≠ parent ++ sibling :: rest
  again : r.resolve p.text = .ok p

theorem not_sibling (hinside : p = r.root ∨ p.IsBelow r.root) {parent rest : Path}
    {name sibling : String} (hroot : r.root = parent ++ [name]) (hne : sibling ≠ name) :
    p ≠ parent ++ sibling :: rest := by
  obtain ⟨below, hp⟩ : ∃ below, p = parent ++ name :: below := by
    rcases hinside with rfl | ⟨below, -, rfl⟩
    · exact ⟨[], hroot⟩
    · exact ⟨below, by rw [hroot, List.append_assoc]; rfl⟩
  rw [hp]
  intro heq
  exact hne (List.cons.inj (List.append_cancel_left heq)).1.symm

theorem isContained_of_resolve (hroot : r.root.IsCanonical) (h : r.resolve written = .ok p) :
    IsContained r written p := by
  obtain ⟨hnull, hleads, hinside⟩ := (resolve_eq_ok_iff hroot).mp h
  have hp : p.IsCanonical := by
    rw [(leadsTo_iff hroot written).mp hleads]
    exact isCanonical_resolve hroot hnull
  have hagain : Files.resolve r.root p.text = p :=
    (resolve_text hp.isWritten r.root).trans (normalize_of_not_mem hp.not_mem_back)
  refine ⟨by simpa [isAbsolute] using isAbsolute_text p, areParts_text hp.isWritten, hp, hleads,
    hinside.imp_right And.right, fun _ _ _ _ => not_sibling (hinside.imp_right And.right), ?_⟩
  exact (resolve_eq_ok_iff hroot).mpr
    ⟨no_null_text hp.isWritten, (leadsTo_iff hroot _).mpr hagain.symm, hinside⟩

/-- Paths stay inside the root.  What a reader answers is contained; where it answers nothing,
the path is refused as such; and unless the root is that of the tree, it answers every path
without a NUL that leads to the root or below. -/
theorem resolve_contained {tree : Tree} {place : Path} {root : String}
    (hplace : place.IsCanonical) (hopen : open? tree place root = .ok r) (written : String) :
    (∀ p, r.resolve written = .ok p → IsContained r written p) ∧
    ((∀ p, r.resolve written ≠ .ok p) →
      r.resolve written = .error .embeddedNull ∨
        r.resolve written = .error (.escapes written r.root)) ∧
    (r.root ≠ [] → '\x00' ∉ written.toList → ∀ p, LeadsTo r.root written p →
      p = r.root ∨ p.IsBelow r.root → r.resolve written = .ok p) := by
  have hroot := isCanonical_root hplace hopen
  refine ⟨fun p h => isContained_of_resolve hroot h, fun h => ?_, fun hne hnull p hleads hin => ?_⟩
  · cases hresolve : r.resolve written with
    | ok p => exact absurd hresolve (h p)
    | error e =>
      rcases resolve_error_cases hresolve with rfl | rfl
      · exact Or.inl rfl
      · exact Or.inr rfl
  · exact (resolve_eq_ok_iff hroot).mpr ⟨hnull, hleads, hin.imp_right fun h => ⟨hne, h⟩⟩

theorem resolve_contained_orders :
    let r : Reader := ⟨⟨[]⟩, ["srv", "contracts"]⟩
    let written := "messages/.././/orders.wsdl"
    Path.IsCanonical ["srv"] ∧ open? ⟨[]⟩ ["srv"] "contracts/" = .ok r ∧
    (∀ p, r.resolve written = .ok p → IsContained r written p) ∧
    ((∀ p, r.resolve written ≠ .ok p) →
      r.resolve written = .error .embeddedNull ∨
        r.resolve written = .error (.escapes written r.root)) ∧
    (r.root ≠ [] → '\x00' ∉ written.toList → ∀ p, LeadsTo r.root written p →
      p = r.root ∨ p.IsBelow r.root → r.resolve written = .ok p) := by
  have hplace : Path.IsCanonical ["srv"] := by
    intro c hc
    obtain rfl := List.mem_singleton.mp hc
    constructor <;> decide
  have hopen : open? ⟨[]⟩ ["srv"] "contracts/" = .ok ⟨⟨[]⟩, ["srv", "contracts"]⟩ := rfl
  exact ⟨hplace, hopen, resolve_contained hplace hopen "messages/.././/orders.wsdl"⟩

/-- A sibling whose name starts with that of the root is refused. -/
example : (⟨⟨[]⟩, ["srv", "app"]⟩ : Reader).resolve "../app-old/secret" =
    .error (.escapes "../app-old/secret" ["srv", "app"]) := rfl

end Reader

end ContractDrift.Files
