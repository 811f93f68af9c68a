/-
Attributes of a tag that are written in another order.

A tag is taken in attribute by attribute: declarations of prefixes change the scope and the others
are values.  What comes out does not depend on the order (`openElement_alike`): the scopes bind the
same prefixes to the same names, and the values are those of the same attributes.

Design notes: both tags are taken in without a fault, which is what two well-formed documents
give.  A value may be normalized with different text behind it, since this only places faults
(`normalize_after`).
-/
import Mathlib.Data.List.Forall2
import ContractDrift.Proofs.Xml.ScannedNames
import ContractDrift.Xml.Content

namespace ContractDrift.Xml

/-! ## Values -/

section

variable {k : NameClass} {d : Definitions} {isOuter : Bool}
  {expand : List Char → List (List Char) → ValueText → Except Mishap ValueText}
  {opened : List (List Char)}

/-- What follows a value tells only where a fault is. -/
theorem replaceWith_after {n : Nat} {v x : ValueText} {gs after : Source}
    (h : replaceWith k d after isOuter expand opened n v gs = .ok x) (after' : Source) :
    replaceWith k d after' isOuter expand opened n v gs = .ok x := by
  induction n generalizing v gs with
  | zero => exact h
  | succ n ih =>
    cases gs with
    | nil => exact h
    | cons g r =>
      unfold replaceWith at h ⊢
      simp only at h ⊢
      split at h
      · -- a reference, of which only the entities take several steps
        split at h
        · cases h
        · cases h
        · split at h
          · cases h
          · exact ih h
        · split at h
          · exact ih h
          · split at h
            · split at h
              · cases h
              · rename_i hdeclare
                rw [if_neg hdeclare]
                exact ih h
            · split at h
              · cases h
              · rename_i hopened
                rw [if_neg hopened]
                split at h
                · cases h
                · cases h
                · obtain ⟨v', hv', h⟩ := bind_eq_ok_iff.mp h
                  exact bind_eq_ok_iff.mpr ⟨v', hv', ih h⟩
      · cases h
      · split at h
        · exact ih h
        · exact ih h
      · split at h
        · rename_i hblank
          rw [if_pos hblank]
          exact ih h
        · rename_i hblank
          rw [if_neg hblank]
          exact ih h
      · cases h

/-- A written value stands for one text, whatever follows it. -/
theorem normalize_after {isCharacterData : Bool} {value after : Source} {text : List Char}
    (h : normalize k d opened isCharacterData isOuter value after = .ok text) (after' : Source) :
    normalize k d opened isCharacterData isOuter value after' = .ok text := by
  obtain ⟨v, hv, htext⟩ := bind_eq_ok_iff.mp h
  exact bind_eq_ok_iff.mpr ⟨v, replaceWith_after hv after', htext⟩

end

/-! ## Scopes -/

/-- Two scopes bind the same prefixes to the same names. -/
def Scope.Alike (s s' : Scope) : Prop := ∀ pfx, s.find? pfx = s'.find? pfx

theorem lookup_perm {α β : Type} [BEq α] [LawfulBEq α] {entries entries' : List (α × β)}
    (h : entries.Perm entries') (hnodup : (entries.map (·.1)).Nodup) (key : α) :
    entries.lookup key = entries'.lookup key := by
  induction h with
  | nil => rfl
  | cons entry _ ih =>
    rw [List.map_cons, List.nodup_cons] at hnodup
    rw [List.lookup_cons, List.lookup_cons, ih hnodup.2]
  | swap first second rest =>
    -- two entries that change places have different keys, so at most one of them is found
    have hne : second.1 ≠ first.1 := by
      intro heq
      refine (List.nodup_cons.mp hnodup).1 (List.mem_map.mpr ⟨first, List.mem_cons_self, ?_⟩)
      exact heq.symm
    rw [List.lookup_cons, List.lookup_cons, List.lookup_cons, List.lookup_cons]
    cases hfirst : key == first.1 with
    | false => rfl
    | true =>
      have hsecond : (key == second.1) = false :=
        beq_false_of_ne fun heq => hne (heq.symm.trans (eq_of_beq hfirst))
      rw [hsecond]
  | trans h _ ih ih' => exact (ih hnodup).trans (ih' ((h.map _).nodup_iff.mp hnodup))

theorem Scope.eq_of_bind {s s' : Scope} {pfx uri : List Char} (h : s.bind pfx uri = .ok s') :
    s' = (pfx, if uri.isEmpty then none else some uri) :: s := by
  simp only [bind] at h
  iterate 6
    split at h
    · cases h
  exact (Except.ok.inj h).symm

theorem Scope.Alike.cons {s s' : Scope} (h : s.Alike s')
    (entry : List Char × Option (List Char)) : Scope.Alike (entry :: s) (entry :: s') := by
  intro pfx
  rw [find?, find?, List.lookup_cons, List.lookup_cons]
  cases pfx == entry.1 with
  | true => rfl
  | false => exact h pfx

/-- Bindings of different prefixes may come in any order. -/
theorem Scope.Alike.append {s s' : Scope} (h : s.Alike s')
    {bindings bindings' : List (List Char × Option (List Char))}
    (hperm : bindings.Perm bindings') (hnodup : (bindings.map (·.1)).Nodup) :
    Scope.Alike (bindings ++ s) (bindings' ++ s') := by
  intro pfx
  rw [find?, find?, List.lookup_append, List.lookup_append, lookup_perm hperm hnodup]
  cases bindings'.lookup pfx with
  | none => exact h pfx
  | some bound => rfl

theorem Scope.Alike.expandElement?_eq {s s' : Scope} (h : s.Alike s') (name : List Char) :
    s.expandElement? name = s'.expandElement? name := by
  simp only [expandElement?, h _]

theorem Scope.Alike.expandAttribute?_eq {s s' : Scope} (h : s.Alike s') (name : List Char) :
    s.expandAttribute? name = s'.expandAttribute? name := by
  simp only [expandAttribute?, h _]

/-! ## Taking in attributes -/

/-- What an attribute binds, if it is a declaration. -/
def bindingOf? (item : List Char × List Char) : Option (List Char × Option (List Char)) :=
  (declaredPrefix? item.1).map fun pfx => (pfx, if item.2.isEmpty then none else some item.2)

namespace TakenAttributes

variable {a a' : TakenAttributes}

/-- The attributes of a tag with some more, each given by its name and its value. -/
def addAll (a : TakenAttributes) (items : List (List Char × List Char)) : TakenAttributes where
  values := a.values ++ items.filter fun item => (declaredPrefix? item.1).isNone
  seen := (items.map (·.1)).reverse ++ a.seen
  scope := (items.filterMap bindingOf?).reverse ++ a.scope

theorem addAll_nil (a : TakenAttributes) : a.addAll [] = a := by
  simp [addAll]

theorem addAll_cons (a : TakenAttributes) (item : List Char × List Char)
    (items : List (List Char × List Char)) :
    (a.addAll [item]).addAll items = a.addAll (item :: items) := by
  simp only [addAll, List.filter_cons, List.filterMap_cons, List.filter_nil, List.filterMap_nil]
  cases declaredPrefix? item.1 with
  | none => cases hbinding : bindingOf? item <;> simp
  | some pfx => cases hbinding : bindingOf? item <;> simp

theorem eq_of_add {name value : List Char} (h : a.add name value = .ok a') :
    a' = a.addAll [(name, value)] := by
  unfold add at h
  split at h
  · rename_i pfx hpfx
    obtain ⟨scope, hscope, h⟩ := bind_eq_ok_iff.mp h
    cases h
    simp [addAll, bindingOf?, hpfx, Scope.eq_of_bind hscope]
  · rename_i hnone
    cases h
    simp [addAll, bindingOf?, hnone]

/-- Two tags have taken in the same attributes so far, in any order. -/
structure Alike (a a' : TakenAttributes) : Prop where
  values : a.values.Perm a'.values
  mem_seen_iff : ∀ name, name ∈ a.seen ↔ name ∈ a'.seen
  scope : a.scope.Alike a'.scope

theorem Alike.addAll (h : a.Alike a') {items items' : List (List Char × List Char)}
    (hperm : items.Perm items') (hnodup : ((items.filterMap bindingOf?).map (·.1)).Nodup) :
    (a.addAll items).Alike (a'.addAll items') where
  values := h.values.append (hperm.filter _)
  mem_seen_iff name := by
    simp only [TakenAttributes.addAll, List.mem_append, List.mem_reverse,
      (hperm.map _).mem_iff, h.mem_seen_iff]
  scope := by
    have hbindings := hperm.filterMap bindingOf?
    have hreverse := (List.reverse_perm _).trans (hbindings.trans (List.reverse_perm _).symm)
    refine h.scope.append hreverse ?_
    rw [List.map_reverse]
    exact List.pairwise_reverse.mpr (hnodup.imp Ne.symm)

end TakenAttributes

/-- Two texts are walked over in the same way, apart from where a fault would be placed. -/
structure TextContext.Alike (t t' : TextContext) : Prop where
  names_eq : t.names = t'.names
  definitions_eq : t.definitions = t'.definitions
  opened_eq : t.opened = t'.opened
  floor_eq : t.floor = t'.floor
  isOuter_eq : t.isOuter = t'.isOuter

/-- Two start tags have the same attributes, written in any order. -/
structure StartTag.Reorders (tag tag' : StartTag) : Prop where
  name_eq : tag.name = tag'.name
  isEmpty_eq : tag.isEmpty = tag'.isEmpty
  perm : (tag.attributes.map fun w => (w.name, w.value)).Perm
    (tag'.attributes.map fun w => (w.name, w.value))

variable {t t' : TextContext} {token token' : Source} {element : List Char}
  {a a' r r' : TakenAttributes}

/-- A written attribute with the text that its value stands for; nothing else of a tag is taken
in. -/
def itemOf (t : TextContext) (element : List Char) (written : List Char × Source) :
    List Char × List Char :=
  (written.1, (normalize t.names t.definitions t.opened
    (t.definitions.isCharacterData element written.1) t.isOuter written.2 []).toOption.getD [])

theorem TextContext.Alike.itemOf_eq (h : t.Alike t') (element : List Char) :
    itemOf t element = itemOf t' element := by
  funext written
  rw [itemOf, itemOf, h.names_eq, h.definitions_eq, h.opened_eq, h.isOuter_eq]

/-- The attributes that are taken in have different names, and none that was seen before. -/
theorem takeWritten_eq_ok {ws : List WrittenAttribute}
    (h : takeWritten t token element ws a = .ok r) :
    (ws.map (·.name)).Nodup ∧ (∀ w ∈ ws, w.name ∉ a.seen) ∧
      r = a.addAll ((ws.map fun w => (w.name, w.value)).map (itemOf t element)) := by
  induction ws generalizing a with
  | nil =>
    cases h
    exact ⟨.nil, fun _ hw => absurd hw List.not_mem_nil, (TakenAttributes.addAll_nil _).symm⟩
  | cons w ws ih =>
    rw [takeWritten] at h
    split at h
    · cases h
    · rename_i hseen
      simp only at h
      split at h
      · cases h
      · rename_i value hvalue
        split at h
        · cases h
        · rename_i a₁ hadd
          have hitem : itemOf t element (w.name, w.value) = (w.name, value) := by
            rw [itemOf, normalize_after hvalue []]
            rfl
          obtain rfl := TakenAttributes.eq_of_add hadd
          obtain ⟨hnodup, hfresh, hr⟩ := ih h
          have hname : w.name ∉ a.seen := by simpa using hseen
          -- the name of this attribute has been seen when the others are taken in
          have hothers : ∀ v ∈ ws, v.name ≠ w.name ∧ v.name ∉ a.seen := by
            intro v hv
            simpa [TakenAttributes.addAll] using hfresh v hv
          refine ⟨?_, fun v hv => ?_, ?_⟩
          · rw [List.map_cons, List.nodup_cons, List.mem_map]
            refine ⟨?_, hnodup⟩
            rintro ⟨v, hv, heq⟩
            exact (hothers v hv).1 heq
          · rcases List.mem_cons.mp hv with rfl | hv
            · exact hname
            · exact (hothers v hv).2
          · rw [hr, List.map_cons, List.map_cons, hitem, TakenAttributes.addAll_cons]

/-- Attributes of different names bind different prefixes. -/
theorem nodup_bindings {k : NameClass} {items : List (List Char × List Char)}
    (hnames : ∀ item ∈ items, k.IsQualified item.1) (hnodup : (items.map (·.1)).Nodup) :
    ((items.filterMap bindingOf?).map (·.1)).Nodup := by
  have hprefixes : (items.filterMap bindingOf?).map (·.1) =
      (items.map (·.1)).filterMap declaredPrefix? := by
    rw [List.map_filterMap, List.filterMap_map]
    refine List.filterMap_congr fun item _ => ?_
    rw [Function.comp_apply, bindingOf?, Option.map_map]
    exact Option.map_id'
  rw [hprefixes, List.Nodup, List.pairwise_filterMap]
  refine hnodup.imp_of_mem fun {n m} hn hm hne p hp q hq heq => hne ?_
  obtain ⟨item, hitem, rfl⟩ := List.mem_map.mp hn
  obtain ⟨item', hitem', rfl⟩ := List.mem_map.mp hm
  rw [← heq] at hq
  exact eq_of_declaredPrefix? (hnames item hitem) (hnames item' hitem') hp hq

theorem takeWritten_alike (ht : t.Alike t') {tag tag' : StartTag} (htag : tag.Reorders tag')
    {k : NameClass} (hnames : ∀ w ∈ tag.attributes, k.IsQualified w.name) (ha : a.Alike a')
    (h : takeWritten t token tag.name tag.attributes a = .ok r)
    (h' : takeWritten t' token' tag'.name tag'.attributes a' = .ok r') : r.Alike r' := by
  obtain ⟨hnodup, -, rfl⟩ := takeWritten_eq_ok h
  obtain ⟨-, -, rfl⟩ := takeWritten_eq_ok h'
  have hperm := htag.perm.map (itemOf t tag.name)
  rw [← ht.itemOf_eq, ← htag.name_eq]
  refine ha.addAll hperm (nodup_bindings (k := k) (fun item hitem => ?_) ?_)
  · obtain ⟨written, hwritten, rfl⟩ := List.mem_map.mp hitem
    obtain ⟨w, hw, rfl⟩ := List.mem_map.mp hwritten
    exact hnames w hw
  · rw [List.map_map, List.map_map]
    exact hnodup

theorem takeDeclared_alike (ha : a.Alike a') {ds : List DeclaredAttribute}
    (h : takeDeclared t token ds a = .ok r) (h' : takeDeclared t' token' ds a' = .ok r') :
    r.Alike r' := by
  induction ds generalizing a a' with
  | nil =>
    cases h
    cases h'
    exact ha
  | cons d ds ih =>
    -- an attribute is added by default exactly if it has not been seen, which is the same on both
    -- sides
    have hseen : a.seen.contains d.name = a'.seen.contains d.name := by
      rw [Bool.eq_iff_iff, List.contains_iff_mem, List.contains_iff_mem, ha.mem_seen_iff]
    rw [takeDeclared] at h h'
    rw [← hseen] at h'
    cases hdefault : d.default with
    | none =>
      simp only [hdefault] at h h'
      exact ih ha h h'
    | some value =>
      simp only [hdefault] at h h'
      split at h
      · rename_i hmem
        rw [if_pos hmem] at h'
        exact ih ha h h'
      · rename_i hmem
        rw [if_neg hmem] at h'
        split at h
        · cases h
        · rename_i hadd
          split at h'
          · cases h'
          · rename_i hadd'
            obtain rfl := TakenAttributes.eq_of_add hadd
            obtain rfl := TakenAttributes.eq_of_add hadd'
            have hone : (([(d.name, value)].filterMap bindingOf?).map (·.1)).Nodup := by
              cases hbinding : bindingOf? (d.name, value) <;> simp [hbinding]
            exact ih (ha.addAll (.refl _) hone) h h'

/-! ## Opening an element -/

theorem expandAttributes_eq_ok {s : Scope} {taken : List String}
    {values : List (List Char × List Char)} {attributes : List (String × String)}
    (h : expandAttributes s taken values = .ok attributes) :
    attributes = values.map fun value =>
      ((s.expandAttribute? value.1).getD "", String.ofList value.2) := by
  induction values generalizing taken attributes with
  | nil =>
    cases h
    rfl
  | cons value values ih =>
    rw [expandAttributes] at h
    -- a fault is reported for a prefix that is not bound or for a name that has been taken
    split at h
    · cases h
    · rename_i full hfull
      split at h
      · cases h
      · obtain ⟨rest, hrest, h⟩ := bind_eq_ok_iff.mp h
        cases h
        rw [List.map_cons, ← ih hrest, hfull]
        rfl

/-- A tag whose attributes are written in another order opens an element with the same attributes
in some order. -/
theorem openElement_alike (ht : t.Alike t') {tag tag' : StartTag} (htag : tag.Reorders tag')
    {k : NameClass} (hnames : ∀ w ∈ tag.attributes, k.IsQualified w.name) {b b' c c' : Builder}
    (hb : b.scope.Alike b'.scope) (h : openElement t token tag b = .ok c)
    (h' : openElement t' token' tag' b' = .ok c') :
    ∃ name attributes attributes' scope scope', attributes.Perm attributes' ∧
      Scope.Alike scope scope' ∧ c = b.start tag.name name attributes scope ∧
      c' = b'.start tag.name name attributes' scope' := by
  obtain ⟨a₁, hwritten, h⟩ := bind_eq_ok_iff.mp h
  obtain ⟨a₁', hwritten', h'⟩ := bind_eq_ok_iff.mp h'
  obtain ⟨a₂, hdeclared, h⟩ := bind_eq_ok_iff.mp h
  obtain ⟨a₂', hdeclared', h'⟩ := bind_eq_ok_iff.mp h'
  have hnone : TakenAttributes.Alike ⟨[], [], b.scope⟩ ⟨[], [], b'.scope⟩ :=
    ⟨.nil, fun _ => Iff.rfl, hb⟩
  -- what the tags themselves say first, then what the document type adds to them
  have ha₁ : a₁.Alike a₁' := takeWritten_alike ht htag hnames hnone hwritten hwritten'
  rw [← ht.definitions_eq, ← htag.name_eq] at hdeclared'
  have ha₂ : a₂.Alike a₂' := takeDeclared_alike ha₁ hdeclared hdeclared'
  split at h
  · cases h
  · rename_i attributes hattributes
    split at h'
    · cases h'
    · rename_i attributes' hattributes'
      -- the scopes are alike, so names are expanded to the same on both sides
      rw [← htag.name_eq, ← ha₂.scope.expandElement?_eq] at h'
      split at h
      · cases h
      · rename_i name hname
        rw [hname] at h'
        cases h
        cases h'
        refine ⟨name, attributes, attributes', a₂.scope, a₂'.scope, ?_, ha₂.scope, rfl, rfl⟩
        rw [expandAttributes_eq_ok hattributes, expandAttributes_eq_ok hattributes']
        simp only [← ha₂.scope.expandAttribute?_eq]
        exact ha₂.values.map _

end ContractDrift.Xml
