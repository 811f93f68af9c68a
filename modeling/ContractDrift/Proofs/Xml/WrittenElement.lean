/-
A written tree is read back as it is laid out.

The writer puts every child on a line of its own, so the text of an element with children
comes back as the start of a line; `Element.laidOut` is the tree that does come back.
`Scope.Reads` says that a written name stands for the name it was written for.

* `passes_inner`, `passes_children` — what is between tags fills the element of the tags;
* `Content.read_writeElement` — the content of a document is read back.

Design notes: the walk over an element is one step from its start tag to its end tag
(`passes_line`), which takes the step for what is inside as a hypothesis; the mutual
induction over trees is then about the insides only.
-/
import ContractDrift.Proofs.Xml.Tags

namespace ContractDrift.Xml

/-! ## Names and texts of a tree -/

mutual

/-- The names in a tree, of each element before those inside it. -/
def Element.names : Element → List String
  | .mk name _ _ children => name :: Element.allNames children

/-- The names in some trees. -/
def Element.allNames : List Element → List String
  | [] => []
  | e :: es => e.names ++ Element.allNames es

end

mutual

/-- The texts in a tree. -/
def Element.texts : Element → List String
  | .mk _ _ text children => text :: Element.allTexts children

/-- The texts in some trees. -/
def Element.allTexts : List Element → List String
  | [] => []
  | e :: es => e.texts ++ Element.allTexts es

end

theorem Element.name_mem_names (e : Element) : e.name ∈ e.names := by
  obtain ⟨name, a, text, children⟩ := e
  exact List.mem_cons_self

theorem Element.mem_names_of_mem_allNames (e : Element) {n : String}
    (h : n ∈ Element.allNames e.children) : n ∈ e.names := by
  obtain ⟨name, a, text, children⟩ := e
  exact List.mem_cons_of_mem name h

/-- An element has content, or its tag is all there is of it. -/
theorem Element.hasContent_or (e : Element) :
    (e.text ≠ "" ∨ e.children ≠ []) ∨ ∃ name a, e = .mk name a "" [] := by
  obtain ⟨name, a, text, children⟩ := e
  by_cases htext : text = ""
  · cases children with
    | nil => exact Or.inr ⟨name, a, by rw [htext]⟩
    | cons c cs => exact Or.inl (Or.inr (List.cons_ne_nil c cs))
  · exact Or.inl (Or.inl htext)

/-- A name is written by a name that stands for it in a scope. -/
structure Scope.Reads (s : Scope) (nameOf : String → String) (name : String) : Prop where
  isQualified : NameClass.plain.IsQualified (nameOf name).toList
  expands : s.expandElement? (nameOf name).toList = some name

/-! ## What is read back -/

mutual

/-- An element as it is read back from a line at its depth: the text of one with children
is the start of the line of its first child. -/
def Element.laidOut (depth : Nat) : Element → Element
  | .mk name _ text children =>
    match children with
    | [] => .mk name [] (String.ofList (Text.unifyEnds text.toList)) []
    | c :: cs => .mk name [] (lineStart (depth + 1)) (Element.allLaidOut (depth + 1) (c :: cs))

/-- Elements as they are read back from lines at their depth. -/
def Element.allLaidOut (depth : Nat) : List Element → List Element
  | [] => []
  | e :: es => e.laidOut depth :: Element.allLaidOut depth es

end

/-- The builder after lines with one child each. -/
def Builder.addLines (depth : Nat) : List Element → Builder → Builder
  | [], b => b
  | e :: es, b =>
    Builder.addLines depth es ((b.data (lineStart depth).toList).addChild (e.laidOut depth))

/-- What stands between the tags of an element at a depth. -/
def Element.inner (nameOf : String → String) (depth : Nat) : Element → List Char
  | .mk _ _ text [] => text.toList.flatMap textEscape
  | .mk _ _ _ (c :: cs) =>
    (writeChildren nameOf (depth + 1) (c :: cs)).toList ++ (lineStart depth).toList

variable {nameOf : String → String} {expand : Expansion} {depth : Nat}

theorem toList_writeElement_leaf (nameOf : String → String) (extra : String) (depth : Nat)
    (name : String) (a : List (String × String)) :
    (writeElement nameOf extra depth (.mk name a "" [])).toList =
      '<' :: (nameOf name).toList ++ extra.toList ++ [' ', '/', '>'] := by
  simp [writeElement]

theorem toList_writeElement (nameOf : String → String) (extra : String) (depth : Nat) (e : Element)
    (h : e.text ≠ "" ∨ e.children ≠ []) :
    (writeElement nameOf extra depth e).toList =
      '<' :: (nameOf e.name).toList ++ extra.toList ++ ['>'] ++ e.inner nameOf depth ++
        ('<' :: '/' :: (nameOf e.name).toList ++ ['>']) := by
  obtain ⟨name, a, text, children⟩ := e
  cases children with
  | nil =>
    have : text ≠ "" := by simpa [Element.text, Element.children] using h
    simp [writeElement, this, Element.inner, Element.name, escapeText]
  | cons c cs => simp [writeElement, Element.inner, Element.name]

theorem exists_writeElement_cons (nameOf : String → String) (extra : String) (depth : Nat)
    (e : Element) : ∃ cs, (writeElement nameOf extra depth e).toList = '<' :: cs := by
  obtain ⟨name, a, text, children⟩ := e
  cases children with
  | nil => by_cases h : text = "" <;> simp [writeElement, h]
  | cons c cs => simp [writeElement]

/-! ## The start of a line -/

theorem unifyEnds_of_not_mem {cs : List Char} (h : '\r' ∉ cs) : Text.unifyEnds cs = cs := by
  induction cs with
  | nil => rfl
  | cons c cs ih =>
    rw [List.mem_cons, not_or] at h
    rw [unifyEnds_cons (Ne.symm h.1), ih h.2]
    rfl

theorem flatMap_textEscape_of_blank {cs : List Char} (h : ∀ c ∈ cs, c = '\n' ∨ c = ' ') :
    cs.flatMap textEscape = cs := by
  induction cs with
  | nil => rfl
  | cons c cs ih =>
    have hc : textEscape c = [c] := by
      rcases h c List.mem_cons_self with rfl | rfl <;> rfl
    rw [List.flatMap_cons, hc, ih fun x hx => h x (List.mem_cons_of_mem c hx)]
    rfl

theorem eq_of_mem_lineStart {depth : Nat} :
    ∀ c ∈ (lineStart depth).toList, c = '\n' ∨ c = ' ' := by
  intro c hc
  rw [lineStart, Text.repeated, String.toList_append, String.toList_join] at hc
  rcases List.mem_append.mp hc with hc | hc
  · exact Or.inl (List.mem_singleton.mp hc)
  · obtain ⟨w, hw, hc⟩ := List.mem_flatMap.mp hc
    obtain rfl := List.eq_of_mem_replicate hw
    right
    simpa using hc

/-- The start of a line adds itself to the innermost element. -/
theorem passes_lineStart (expand : Expansion) (depth : Nat) (b : Builder) (r : Source) :
    Passes expand b (glyphs (lineStart depth).toList ++ .char '<' :: r)
      (b.data (lineStart depth).toList) (.char '<' :: r) := by
  have hreturn : '\r' ∉ (lineStart depth).toList := by
    intro h
    rcases eq_of_mem_lineStart _ h with h | h <;> exact absurd h (by decide)
  have := passes_text expand (lineStart depth).toList b r
  rwa [flatMap_textEscape_of_blank eq_of_mem_lineStart, unifyEnds_of_not_mem hreturn] at this

/-! ## The lines of children -/

namespace Builder

theorem scope_data (b : Builder) (cs : List Char) : (b.data cs).scope = b.scope := by
  unfold data
  split
  · rfl
  · split <;> rfl

theorem opened_data_ne_nil {b : Builder} (h : b.opened ≠ []) (cs : List Char) :
    (b.data cs).opened ≠ [] := by
  obtain ⟨opened, scope, root⟩ := b
  cases opened with
  | nil => exact absurd rfl h
  | cons e r =>
    unfold data
    split <;> simp_all
    split <;> simp

theorem addChild_within (b : Builder) (o : OpenElement) (s : Scope) (e : Element) :
    (b.within o s).addChild e = b.within { o with children := e :: o.children } s := rfl

/-- After the first child only children are added. -/
theorem addLines_within_of_children (depth : Nat) (es : List Element) (b : Builder) (s : Scope)
    {o : OpenElement} (ho : o.children ≠ []) :
    (b.within o s).addLines depth es =
      b.within { o with children := (Element.allLaidOut depth es).reverse ++ o.children } s := by
  induction es generalizing o with
  | nil => rfl
  | cons e es ih =>
    rw [addLines, data_within_of_children ho, addChild_within, ih (List.cons_ne_nil _ _)]
    simp [Element.allLaidOut]

end Builder

/-- An open element that has the text and the children of a tree. -/
def OpenElement.fill (o : OpenElement) (e : Element) : OpenElement :=
  { o with text := e.text.toList.reverse, children := e.children.reverse }

theorem OpenElement.close_fill (w : List Char) (s : Scope) (depth : Nat) (e : Element) :
    (OpenElement.fill ⟨w, e.name, [], [], [], s⟩ (e.laidOut depth)).close = e.laidOut depth := by
  obtain ⟨name, a, text, children⟩ := e
  cases children <;>
    simp [close, fill, Element.laidOut, Element.name, Element.text, Element.children]

/-! ## Trees -/

/-- The walk over a written element adds it to the element around it, if the walk over what
is between its tags fills it. -/
theorem passes_line {b : Builder} (e : Element) (hname : b.scope.Reads nameOf e.name)
    (hb : b.opened ≠ [])
    (hinner : ∀ o : OpenElement, o.text = [] → o.children = [] → ∀ r,
      Passes expand (b.within o b.scope) (glyphs (e.inner nameOf depth) ++ .char '<' :: r)
        (b.within (o.fill (e.laidOut depth)) b.scope) (.char '<' :: r)) (r : Source) :
    Passes expand b (glyphs (writeElement nameOf "" depth e).toList ++ r)
      (b.addChild (e.laidOut depth)) r := by
  -- an element with content has two tags, and one without has a single tag
  rcases e.hasContent_or with h | ⟨name, a, rfl⟩
  · let o : OpenElement := ⟨(nameOf e.name).toList, e.name, [], [], [], b.scope⟩
    have hnone : ∀ d ∈ ([] : List Declared), d.Valid := fun _ hd => absurd hd List.not_mem_nil
    have hstart := Passes.start expand hname.isQualified hnone .nil hname.expands
      (glyphs (e.inner nameOf depth) ++
        (glyphs ('<' :: '/' :: (nameOf e.name).toList ++ ['>']) ++ r))
    have hfill := hinner o rfl rfl (glyphs ('/' :: (nameOf e.name).toList ++ ['>']) ++ r)
    have hfinish := Passes.finish expand (s := b.scope)
      (e := o.fill (e.laidOut depth)) hname.isQualified rfl hb r
    rw [OpenElement.close_fill] at hfinish
    rw [toList_writeElement nameOf "" depth e h]
    simpa using hstart.trans (hfill.trans hfinish)
  · rw [toList_writeElement_leaf]
    have hempty := Passes.empty expand hname.isQualified hname.expands hb r
    simpa [Element.laidOut, Element.name, Text.unifyEnds] using hempty

mutual

/-- What is between the tags of a written element fills it. -/
theorem passes_inner (expand : Expansion) : (e : Element) → (depth : Nat) → (b : Builder) →
    (s : Scope) → (∀ n ∈ Element.allNames e.children, s.Reads nameOf n) → (o : OpenElement) →
    o.text = [] → o.children = [] → (r : Source) →
    Passes expand (b.within o s) (glyphs (e.inner nameOf depth) ++ .char '<' :: r)
      (b.within (o.fill (e.laidOut depth)) s) (.char '<' :: r)
  | .mk name a text [], depth, b, s, _, o, htext, hchildren, r => by
    have hdata := passes_text expand text.toList (b.within o s) r
    rw [Builder.data_within hchildren, htext] at hdata
    simpa [Element.inner, OpenElement.fill, Element.laidOut, Element.text, Element.children,
      hchildren] using hdata
  | .mk name a text (c :: cs), depth, b, s, hnames, o, htext, hchildren, r => by
    have hlines := passes_children expand (c :: cs) (depth + 1) (b.within o s)
      (List.cons_ne_nil _ _) hnames (glyphs (lineStart depth).toList ++ .char '<' :: r)
    have hlast := passes_lineStart expand depth
      ((b.within o s).addLines (depth + 1) (c :: cs)) r
    have hfill : ((b.within o s).addLines (depth + 1) (c :: cs)) =
        b.within (o.fill ((Element.mk name a text (c :: cs)).laidOut depth)) s := by
      rw [Builder.addLines, Builder.data_within hchildren, Builder.addChild_within,
        Builder.addLines_within_of_children _ _ _ _ (List.cons_ne_nil _ _)]
      simp [OpenElement.fill, Element.laidOut, Element.text, Element.children,
        Element.allLaidOut, htext, hchildren]
    -- the line of the end tag leaves the text of the element as it is
    have hkeep : (o.fill ((Element.mk name a text (c :: cs)).laidOut depth)).children ≠ [] := by
      simp [OpenElement.fill, Element.laidOut, Element.children, Element.allLaidOut]
    rw [hfill, Builder.data_within_of_children hkeep] at hlast
    rw [hfill] at hlines
    rw [Element.inner, glyphs_append, List.append_assoc]
    exact hlines.trans hlast

/-- Lines with one child each add these children. -/
theorem passes_children (expand : Expansion) : (es : List Element) → (depth : Nat) → (b : Builder) →
    b.opened ≠ [] → (∀ n ∈ Element.allNames es, b.scope.Reads nameOf n) → (r : Source) →
    Passes expand b (glyphs (writeChildren nameOf depth es).toList ++ r)
      (b.addLines depth es) r
  | [], depth, b, _, _, r => Passes.refl b r
  | e :: es, depth, b, hb, hnames, r => by
    rw [Element.allNames, List.forall_mem_append] at hnames
    obtain ⟨tail, htail⟩ := exists_writeElement_cons nameOf "" depth e
    have hline := passes_lineStart expand depth b
      (glyphs (tail ++ (writeChildren nameOf depth es).toList) ++ r)
    have hscope := b.scope_data (lineStart depth).toList
    have hopened := Builder.opened_data_ne_nil hb (lineStart depth).toList
    -- data and children leave the scope as it is, so the names are still read
    have hname : (b.data (lineStart depth).toList).scope.Reads nameOf e.name := by
      rw [hscope]
      exact hnames.1 _ e.name_mem_names
    have hinside : ∀ n ∈ Element.allNames e.children,
        (b.data (lineStart depth).toList).scope.Reads nameOf n := by
      rw [hscope]
      exact fun n hn => hnames.1 n (e.mem_names_of_mem_allNames hn)
    have hothers : ∀ n ∈ Element.allNames es,
        ((b.data (lineStart depth).toList).addChild (e.laidOut depth)).scope.Reads nameOf n := by
      rw [Builder.scope_addChild, hscope]
      exact hnames.2
    have helement := passes_line e hname hopened (passes_inner expand e depth _ _ hinside)
      (glyphs (writeChildren nameOf depth es).toList ++ r)
    have hrest := passes_children expand es depth
      ((b.data (lineStart depth).toList).addChild (e.laidOut depth))
      (Builder.opened_addChild_ne_nil hopened _) hothers r
    rw [writeChildren]
    rw [htail, glyphs_cons, List.cons_append, ← List.append_assoc, ← glyphs_append] at helement
    have hall := hline.trans (helement.trans hrest)
    simpa [htail, Builder.addLines] using hall

end

/-! ## The root -/

/-- The end tag of the root ends the walk. -/
theorem walk_rootEnd (expand : Expansion) {o : OpenElement}
    (htag : NameClass.plain.IsQualified o.writtenName) (s : Scope) (n : Nat) (r : Source) :
    walk expand documentContext (n + 1) (Builder.initial.within o s)
      (glyphs ('<' :: '/' :: o.writtenName ++ ['>']) ++ r) =
        .ok (⟨[], o.outerScope, some o.close⟩, r) := by
  have hpiece := nextPiece_endTag htag r
  have hclose := closeElement_within (glyphs ('<' :: '/' :: o.writtenName ++ ['>']) ++ r)
    Builder.initial o s
  rw [walk_of_steps (t := documentContext) hpiece (.finish r hclose)]
  rfl

/-- A written root is read back as it is laid out, whatever follows it. -/
theorem Content.read_writeElement (root : Element) (hroot : root.text ≠ "" ∨ root.children ≠ [])
    {ds : List Declared} (hds : ∀ d ∈ ds, d.Valid) (hnodup : (ds.map Declared.pfx).Nodup)
    (hnames : ∀ n ∈ root.names, (Scope.initial.declare ds).Reads nameOf n)
    {extra : String} (hextra : extra.toList = ds.flatMap Declared.written) (after : Source) :
    Content.read .plain Definitions.empty
      (glyphs (writeElement nameOf extra 0 root).toList ++ after) =
        .ok (⟨[], Scope.initial, some (root.laidOut 0)⟩, after) := by
  let s := Scope.initial.declare ds
  let o : OpenElement := ⟨(nameOf root.name).toList, root.name, [], [], [], Scope.initial⟩
  have hname := hnames _ root.name_mem_names
  have hstart := Passes.start (walkEntity (Definitions.empty.entities.length + 1))
    (b := Builder.initial) hname.isQualified hds hnodup hname.expands
    (glyphs (root.inner nameOf 0) ++
      (glyphs ('<' :: '/' :: (nameOf root.name).toList ++ ['>']) ++ after))
  have hfill := passes_inner (walkEntity (Definitions.empty.entities.length + 1))
    root 0 Builder.initial s
    (fun n hn => hnames n (root.mem_names_of_mem_allNames hn)) o rfl rfl
    (glyphs ('/' :: (nameOf root.name).toList ++ ['>']) ++ after)
  obtain ⟨k, hk, hwalk⟩ := hstart.trans hfill
  rw [toList_writeElement nameOf extra 0 root hroot, hextra]
  generalize hgs : glyphs
    ('<' :: (nameOf root.name).toList ++ ds.flatMap Declared.written ++ ['>'] ++
      root.inner nameOf 0 ++ ('<' :: '/' :: (nameOf root.name).toList ++ ['>'])) ++ after = gs
  have hsplit : gs =
      glyphs ('<' :: (nameOf root.name).toList ++ ds.flatMap Declared.written ++ ['>']) ++
        (glyphs (root.inner nameOf 0) ++
          (glyphs ('<' :: '/' :: (nameOf root.name).toList ++ ['>']) ++ after)) := by
    rw [← hgs]
    simp
  rw [← hsplit] at hk hwalk
  -- a piece takes in a glyph at least, so there is fuel left for the end tag
  obtain ⟨n, hn⟩ : ∃ n, gs.length + 1 = (n + 1) + k := ⟨gs.length - k, by omega⟩
  have hend := walk_rootEnd (walkEntity (Definitions.empty.entities.length + 1))
    (o := o.fill (root.laidOut 0)) hname.isQualified s n after
  rw [OpenElement.close_fill] at hend
  have hcontext : (⟨.plain, Definitions.empty, none, [], 0⟩ : TextContext) = documentContext := rfl
  rw [Content.read, hcontext, hn, hwalk]
  exact hend

end ContractDrift.Xml
