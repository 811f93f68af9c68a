/-
Trees that are the same.

The attributes of a node form a mapping, so two trees are the same (`Node.Same`) if they differ
at most in the order in which their attributes are listed.  A tree is made from an element by
leaving out namespaces, and of several attributes with one local name the last counts
(`lookup_localAttributes_eq_some_iff`).

* `lookup_localAttributes_perm_iff` — the order of the attributes of an element shows in its
  node exactly if two of them have one local name and different values;
* `same_ofElement` — elements that are related in their names and attributes have the same tree,
  if the relations keep local names and the values that are read for them.

Design notes: two kinds of change are to be compared, of namespaces and of order, and both are
changes at every depth.  `Element.Alike` is therefore a relation between elements that is given by
one between names and one between lists of attributes.
-/
import Mathlib.Data.List.Forall2
import ContractDrift.Proofs.Text.Split
import ContractDrift.Xml.Node

namespace ContractDrift.Xml

/-! ## Local names -/

/-- A name without a brace and without a prefix is its own local name. -/
theorem plainName_bare {name : String} (hbrace : '\x7b' ∉ name.toList)
    (hcolon : ':' ∉ name.toList) : plainName name = name := by
  have hlocal : localChars name.toList = .ok name.toList := by
    rw [localChars]
    · rw [afterLastColon, Text.splitLast_eq_none hcolon]
    · intro r hr
      rw [hr] at hbrace
      exact hbrace List.mem_cons_self
  rw [plainName, localName, hlocal]
  exact String.ofList_toList

/-- The local name stands behind the first closing brace, which is that of the namespace. -/
theorem plainName_braced {name : String} {uri l : List Char}
    (hname : name.toList = '\x7b' :: uri ++ '\x7d' :: l) (huri : '\x7d' ∉ uri) (hcolon : ':' ∉ l) :
    plainName name = String.ofList l := by
  have hsplit : Text.splitFirst '\x7d' ('\x7b' :: uri ++ '\x7d' :: l) = some ('\x7b' :: uri, l) :=
    Text.splitFirst_append (by simpa using huri) l
  rw [List.cons_append] at hname hsplit
  have hlocal : localChars name.toList = .ok l := by
    rw [hname, localChars]
    simp only [hsplit, afterLastColon, Text.splitLast_eq_none hcolon]
  rw [plainName, localName, hlocal]
  rfl

/-! ## Attributes by local name -/

variable {attributes attributes' : List (String × String)} {key value : String}

theorem lookup_setPair (key name value : String) (entries : List (String × String)) :
    (setPair name value entries).lookup key =
      if key = name then some value else entries.lookup key := by
  induction entries with
  | nil =>
    by_cases h : key = name
    · simp [setPair, h]
    · simp [setPair, h, List.lookup_cons, beq_false_of_ne h]
  | cons entry entries ih =>
    obtain ⟨k, v⟩ := entry
    unfold setPair
    -- the value is set in place, at the first entry of that name
    by_cases hk : k = name
    · subst hk
      by_cases h : key = k
      · simp [h]
      · simp [h, List.lookup_cons, beq_false_of_ne h]
    · rw [if_neg hk, List.lookup_cons, List.lookup_cons, ih]
      by_cases h : key = k
      · subst h
        simp [hk]
      · simp [beq_false_of_ne h]

/-- The value of a local name is that of the last attribute with this name. -/
theorem lookup_localAttributes (attributes : List (String × String)) (key : String) :
    (localAttributes attributes).lookup key =
      (attributes.reverse.find? fun a => plainName a.1 == key).map (·.2) := by
  -- from the front each attribute overrides what is set before, so the last one is seen first
  suffices h : ∀ entries : List (String × String),
      (attributes.foldl (fun acc a => setPair (plainName a.1) a.2 acc) entries).lookup key =
        ((attributes.reverse.find? fun a => plainName a.1 == key).map (·.2)).or
          (entries.lookup key) by
    rw [localAttributes, h []]
    simp
  induction attributes with
  | nil => simp
  | cons a attributes ih =>
    intro entries
    rw [List.foldl_cons, ih, lookup_setPair, List.reverse_cons, List.find?_append]
    cases attributes.reverse.find? fun a => plainName a.1 == key with
    | some b => simp
    | none =>
      by_cases h : plainName a.1 = key
      · simp [h]
      · simp [h, Ne.symm h]

/-- The last attribute of a local name has a value. -/
def IsLast (attributes : List (String × String)) (key value : String) : Prop :=
  ∃ before name after, attributes = before ++ (name, value) :: after ∧ plainName name = key ∧
    ∀ a ∈ after, plainName a.1 ≠ key

/-- The attribute whose value is read for a local name: the last one with this name. -/
theorem lookup_localAttributes_eq_some_iff :
    (localAttributes attributes).lookup key = some value ↔ IsLast attributes key value := by
  rw [lookup_localAttributes, Option.map_eq_some_iff]
  constructor
  · rintro ⟨⟨name, v⟩, hfind, rfl⟩
    obtain ⟨hname, before, after, hsplit, hbefore⟩ := List.find?_eq_some_iff_append.mp hfind
    refine ⟨after.reverse, name, before.reverse, ?_, by simpa using hname, fun a ha => ?_⟩
    · rw [← List.reverse_reverse attributes, hsplit]
      simp
    · simpa using hbefore a (List.mem_reverse.mp ha)
  · rintro ⟨before, name, after, rfl, hname, hafter⟩
    refine ⟨(name, value), List.find?_eq_some_iff_append.mpr ⟨by simpa using hname,
      after.reverse, before.reverse, by simp, fun a ha => ?_⟩, rfl⟩
    simpa using hafter a (List.mem_reverse.mp ha)

/-- No two attributes have one local name and different values. -/
def IsConsistent (attributes : List (String × String)) : Prop :=
  ∀ a ∈ attributes, ∀ b ∈ attributes, plainName a.1 = plainName b.1 → a.2 = b.2

instance (attributes : List (String × String)) : Decidable (IsConsistent attributes) :=
  inferInstanceAs (Decidable (∀ a ∈ attributes, ∀ b ∈ attributes,
    plainName a.1 = plainName b.1 → a.2 = b.2))

/-- Where no local name has two values, any attribute of the name tells the value. -/
theorem IsConsistent.lookup_eq_some_iff (h : IsConsistent attributes) :
    (localAttributes attributes).lookup key = some value ↔
      ∃ a ∈ attributes, plainName a.1 = key ∧ a.2 = value := by
  constructor
  · intro hlookup
    obtain ⟨before, name, after, rfl, hname, -⟩ := lookup_localAttributes_eq_some_iff.mp hlookup
    exact ⟨(name, value), by simp, hname, rfl⟩
  · rintro ⟨a, ha, hname, rfl⟩
    have hfound : (attributes.reverse.find? fun a => plainName a.1 == key).isSome = true := by
      rw [List.find?_isSome]
      exact ⟨a, List.mem_reverse.mpr ha, by simpa using hname⟩
    obtain ⟨b, hb⟩ := Option.isSome_iff_exists.mp hfound
    have hmem : b ∈ attributes := List.mem_reverse.mp (List.mem_of_find?_eq_some hb)
    have hkey : plainName b.1 = key := by simpa using List.find?_some hb
    rw [lookup_localAttributes, hb, Option.map_some, h b hmem a ha (hkey.trans hname.symm)]

/-- Consistent attributes with the same local names and values are the same mapping. -/
theorem IsConsistent.lookup_eq (h : IsConsistent attributes) (h' : IsConsistent attributes')
    (hsame : ∀ key value, (∃ a ∈ attributes, plainName a.1 = key ∧ a.2 = value) ↔
      ∃ a ∈ attributes', plainName a.1 = key ∧ a.2 = value) (key : String) :
    (localAttributes attributes).lookup key = (localAttributes attributes').lookup key := by
  refine Option.ext fun value => ?_
  rw [h.lookup_eq_some_iff, h'.lookup_eq_some_iff, hsame]

theorem IsConsistent.perm (h : IsConsistent attributes) (hperm : attributes.Perm attributes') :
    IsConsistent attributes' := fun a ha b hb =>
  h a (hperm.mem_iff.mpr ha) b (hperm.mem_iff.mpr hb)

/-- The order of attributes does not matter exactly if no two of them have one local name and
different values. -/
theorem lookup_localAttributes_perm_iff :
    (∀ attributes', attributes.Perm attributes' → ∀ key,
      (localAttributes attributes).lookup key = (localAttributes attributes').lookup key) ↔
      IsConsistent attributes := by
  constructor
  · intro h a ha b hb hname
    -- written last, either of the two decides
    have hlast {c : String × String} (hc : c ∈ attributes) :
        (localAttributes attributes).lookup (plainName c.1) = some c.2 := by
      obtain ⟨before, after, rfl⟩ := List.append_of_mem hc
      have hperm : (before ++ c :: after).Perm (before ++ after ++ [c]) := by
        refine List.perm_middle.trans ?_
        exact (List.perm_append_singleton c (before ++ after)).symm
      rw [h _ hperm, lookup_localAttributes_eq_some_iff]
      exact ⟨before ++ after, c.1, [], rfl, rfl, fun _ h => absurd h List.not_mem_nil⟩
    have hboth := hlast ha
    rw [hname, hlast hb] at hboth
    exact (Option.some.inj hboth).symm
  · intro h attributes' hperm
    exact h.lookup_eq (h.perm hperm) fun key value => by simp only [hperm.mem_iff]

/-! ## The same tree -/

/-- Two trees are the same: their names, texts and children are, and their attributes are the
same mapping. -/
inductive Node.Same : Node → Node → Prop
  | mk {name text : String} {attributes attributes' : List (String × String)}
      {children children' : List Node} :
      (∀ key, attributes.lookup key = attributes'.lookup key) →
      List.Forall₂ Node.Same children children' →
      Node.Same (.mk name attributes children text) (.mk name attributes' children' text)

namespace Node

variable {n n' : Node}

theorem Same.name_eq (h : n.Same n') : n.name = n'.name := by
  cases h
  rfl

theorem Same.attr_eq (h : n.Same n') (key : String) : n.attr key = n'.attr key := by
  cases h with
  | mk hattributes _ => exact hattributes key

theorem Same.children (h : n.Same n') : List.Forall₂ Node.Same n.children n'.children := by
  cases h with
  | mk _ hchildren => exact hchildren

theorem Same.childrenNamed (h : n.Same n') (name : String) :
    List.Forall₂ Node.Same (n.childrenNamed name) (n'.childrenNamed name) := by
  refine List.rel_filter (fun a b hab => ?_) h.children
  show (a.name == name) = true ↔ (b.name == name) = true
  rw [hab.name_eq]

theorem Same.childNames_eq (h : n.Same n') : n.childNames = n'.childNames := by
  have hnames : List.Forall₂ (· = ·) n.childNames n'.childNames :=
    List.rel_map (fun _ _ hab => hab.name_eq) h.children
  rwa [List.forall₂_eq_eq_eq] at hnames

/-- The first children of a name are the same, or both are missing. -/
theorem Same.child (h : n.Same n') (name : String) :
    Option.Rel Node.Same (n.child name) (n'.child name) := by
  unfold Node.child
  have hchildren := h.children
  generalize n.children = children, n'.children = children' at hchildren
  induction hchildren with
  | nil => exact .none
  | @cons a b _ _ hab _ ih =>
    rw [List.find?_cons, List.find?_cons, hab.name_eq]
    cases b.name == name with
    | true => exact .some hab
    | false => exact ih

end Node

/-! ## Elements that are alike -/

/-- Two elements have the same shape and the same texts, and at every depth their names and
their attributes are related. -/
inductive Element.Alike (names : String → String → Prop)
    (lists : List (String × String) → List (String × String) → Prop) : Element → Element → Prop
  | mk {name name' text : String} {attributes attributes' : List (String × String)}
      {children children' : List Element} : names name name' → lists attributes attributes' →
      List.Forall₂ (Element.Alike names lists) children children' →
      Element.Alike names lists (.mk name attributes text children)
        (.mk name' attributes' text children')

/-- Relations between names and between lists of attributes that do not show in a tree. -/
structure IsHidden (names : String → String → Prop)
    (lists : List (String × String) → List (String × String) → Prop) : Prop where
  name_eq : ∀ name name', names name name' → plainName name = plainName name'
  lookup_eq : ∀ attributes attributes', lists attributes attributes' → ∀ key,
    (localAttributes attributes).lookup key = (localAttributes attributes').lookup key

section

variable {names : String → String → Prop}
  {lists : List (String × String) → List (String × String) → Prop}

mutual

/-- Elements that differ only in what does not show have the same tree. -/
theorem same_ofElement (hidden : IsHidden names lists) : ∀ {e e' : Element},
    e.Alike names lists e' → (Node.ofElement e).Same (Node.ofElement e')
  | .mk name attributes text children, .mk name' attributes' _ children',
      .mk hname hattributes hchildren => by
    rw [Node.ofElement, Node.ofElement, hidden.name_eq _ _ hname]
    exact .mk (hidden.lookup_eq _ _ hattributes) (same_ofElements hidden hchildren)

theorem same_ofElements (hidden : IsHidden names lists) : ∀ {es es' : List Element},
    List.Forall₂ (Element.Alike names lists) es es' →
      List.Forall₂ Node.Same (Node.ofElements es) (Node.ofElements es')
  | [], [], .nil => .nil
  | _ :: _, _ :: _, .cons h hs => .cons (same_ofElement hidden h) (same_ofElements hidden hs)

end

end

end ContractDrift.Xml
