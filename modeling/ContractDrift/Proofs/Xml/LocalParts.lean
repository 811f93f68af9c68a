/-
Local parts of the names in a document.

`HasLocalPart` says which names have a local part: it stands by itself, or behind a namespace in
braces.  A tree keeps just this part (`plainName_of_hasLocalPart`).  Every name of a document that
is read has one (`namesAll_of_read`): no namespace that can be bound holds a closing brace, and
neither a colon nor a brace is found in the parts of a name.

Design notes: what holds of all names that an element can be given is carried through the walk
over the content as an invariant of the builder (`Keeps.walk`).
-/
import ContractDrift.Proofs.Xml.AttributeOrder
import ContractDrift.Proofs.Xml.PrologNames
import ContractDrift.Proofs.Xml.SameTree
import ContractDrift.Proofs.Xml.Walk

namespace ContractDrift.Xml

/-! ## Local parts -/

/-- The expanded names that have a local part: the part itself, in no namespace, and the part
behind any namespace in braces. -/
inductive HasLocalPart (l : List Char) : String → Prop
  | inNone : '\x7b' ∉ l → ':' ∉ l → HasLocalPart l (String.ofList l)
  | inNamespace {uri : List Char} : '\x7d' ∉ uri → ':' ∉ l →
      HasLocalPart l (Scope.expanded uri l)

variable {l n : List Char} {name : String}

theorem plainName_of_hasLocalPart (h : HasLocalPart l name) : plainName name = String.ofList l := by
  cases h with
  | inNone hbrace hcolon =>
    rw [← String.toList_ofList (l := l)] at hbrace hcolon
    exact plainName_bare hbrace hcolon
  | inNamespace huri hcolon => exact plainName_braced String.toList_ofList huri hcolon

theorem HasLocalPart.unique {l' : List Char} (h : HasLocalPart l name)
    (h' : HasLocalPart l' name) : l = l' := by
  have hname := plainName_of_hasLocalPart h
  rw [plainName_of_hasLocalPart h'] at hname
  exact (String.ofList_injective hname).symm

/-- A name has a local part. -/
def IsExpanded (name : String) : Prop := ∃ l, HasLocalPart l name

/-- What a tree keeps of a name that has a local part is this part. -/
theorem plainName_eq_iff {key : String} (h : IsExpanded name) :
    plainName name = key ↔ HasLocalPart key.toList name := by
  obtain ⟨l, hl⟩ := h
  constructor
  · rintro rfl
    rwa [plainName_of_hasLocalPart hl, String.toList_ofList]
  · intro hkey
    rw [plainName_of_hasLocalPart hkey, String.ofList_toList]

/-! ## Names in a scope -/

/-- No prefix is bound to a namespace with a closing brace. -/
def Scope.IsClean (s : Scope) : Prop := ∀ pfx uri, s.find? pfx = some uri → '\x7d' ∉ uri

theorem Scope.isClean_initial : Scope.initial.IsClean := by
  intro pfx uri h
  rw [find?, initial, List.lookup_cons] at h
  split at h
  · cases h
    decide
  · cases h

theorem Scope.IsClean.bind {s s' : Scope} {pfx uri : List Char} (hs : s.IsClean)
    (h : s.bind pfx uri = .ok s') : s'.IsClean := by
  -- a namespace with a closing brace is refused where it is declared
  have huri : '\x7d' ∉ uri := by
    intro hmem
    have hcontains : uri.contains '\x7d' = true := List.contains_iff_mem.mpr hmem
    simp only [Scope.bind, hcontains, if_true] at h
    split at h
    · cases h
    · split at h <;> cases h
  rw [Scope.eq_of_bind h]
  intro p u hu
  rw [find?, List.lookup_cons] at hu
  split at hu
  · split at hu
    · cases hu
    · cases hu
      exact huri
  · exact hs p u hu

/-- The parts of a name with at most one prefix: a local part without colons or braces, which is
all of it where there is no prefix. -/
theorem isPart_localPart (h : IsWritten n) :
    IsPart (Qualified.of n).localPart ∧
      ((Qualified.of n).pfx.isEmpty = true → (Qualified.of n).localPart = n) := by
  have hcolon {cs : List Char} (hcs : IsPart cs) : ':' ∉ cs := fun hmem => (hcs _ hmem).1 rfl
  cases h with
  | plain hn =>
    rw [Qualified.of, Text.splitFirst_eq_none (hcolon hn)]
    exact ⟨hn, fun _ => rfl⟩
  | @prefixed p l hne hp hl =>
    rw [Qualified.of, Text.splitFirst_append (hcolon hp)]
    exact ⟨hl, fun hempty => absurd (List.isEmpty_iff.mp hempty) hne⟩

theorem isExpanded_expanded {s : Scope} (hs : s.IsClean) {pfx uri : List Char}
    (huri : s.find? pfx = some uri) (hl : IsPart l) : IsExpanded (Scope.expanded uri l) :=
  ⟨l, .inNamespace (hs pfx uri huri) fun hmem => (hl _ hmem).1 rfl⟩

theorem isExpanded_ofList (hl : IsPart l) : IsExpanded (String.ofList l) :=
  ⟨l, .inNone (fun hmem => (hl _ hmem).2.1 rfl) fun hmem => (hl _ hmem).1 rfl⟩

theorem isExpanded_expandElement? {s : Scope} (hs : s.IsClean) (hn : IsWritten n)
    (h : s.expandElement? n = some name) : IsExpanded name := by
  obtain ⟨hpart, hwhole⟩ := isPart_localPart hn
  unfold Scope.expandElement? at h
  simp only at h
  split at h
  · rename_i uri huri
    cases h
    exact isExpanded_expanded hs huri hpart
  · split at h
    · rename_i hempty
      cases h
      rw [hwhole hempty] at hpart
      exact isExpanded_ofList hpart
    · cases h

theorem isExpanded_expandAttribute? {s : Scope} (hs : s.IsClean) (hn : IsWritten n)
    (h : s.expandAttribute? n = some name) : IsExpanded name := by
  obtain ⟨hpart, hwhole⟩ := isPart_localPart hn
  unfold Scope.expandAttribute? at h
  simp only at h
  split at h
  · rename_i hempty
    cases h
    rw [hwhole hempty] at hpart
    exact isExpanded_ofList hpart
  · obtain ⟨uri, huri, rfl⟩ := Option.map_eq_some_iff.mp h
    exact isExpanded_expanded hs huri hpart

/-! ## Names in a tag -/

/-- The attributes that are taken in have names with at most one prefix, and their declarations
keep the scope clean. -/
structure TakenAttributes.IsClean (a : TakenAttributes) : Prop where
  values : ∀ value ∈ a.values, IsWritten value.1
  scope : a.scope.IsClean

variable {t : TextContext} {token rest gs : Source} {a a' : TakenAttributes} {b c : Builder}
  {k : NameClass}

theorem TakenAttributes.IsClean.add {value : List Char} (ha : a.IsClean) (hn : IsWritten n)
    (h : a.add n value = .ok a') : a'.IsClean := by
  unfold TakenAttributes.add at h
  split at h
  · obtain ⟨scope, hscope, h⟩ := bind_eq_ok_iff.mp h
    cases h
    exact ⟨ha.values, ha.scope.bind hscope⟩
  · cases h
    refine ⟨fun v hv => ?_, ha.scope⟩
    rcases List.mem_append.mp hv with hv | hv
    · exact ha.values v hv
    · rwa [List.mem_singleton.mp hv]

theorem isClean_of_takeWritten {element : List Char} {ws : List WrittenAttribute}
    (hws : ∀ w ∈ ws, IsWritten w.name) (ha : a.IsClean)
    (h : takeWritten t token element ws a = .ok a') : a'.IsClean := by
  induction ws generalizing a with
  | nil =>
    cases h
    exact ha
  | cons w ws ih =>
    rw [takeWritten] at h
    split at h
    · cases h
    · simp only at h
      split at h
      · cases h
      · split at h
        · cases h
        · rename_i hadd
          have hothers : ∀ v ∈ ws, IsWritten v.name := fun v hv =>
            hws v (List.mem_cons_of_mem w hv)
          exact ih hothers (ha.add (hws w List.mem_cons_self) hadd) h

theorem isClean_of_takeDeclared {ds : List DeclaredAttribute}
    (hds : ∀ d ∈ ds, IsWritten d.name) (ha : a.IsClean)
    (h : takeDeclared t token ds a = .ok a') : a'.IsClean := by
  induction ds generalizing a with
  | nil =>
    cases h
    exact ha
  | cons d ds ih =>
    have hothers : ∀ x ∈ ds, IsWritten x.name := fun x hx => hds x (List.mem_cons_of_mem d hx)
    rw [takeDeclared] at h
    split at h
    · exact ih hothers ha h
    · split at h
      · exact ih hothers ha h
      · split at h
        · cases h
        · rename_i hadd
          exact ih hothers (ha.add (hds d List.mem_cons_self) hadd) h

theorem isExpanded_of_expandAttributes {s : Scope} {taken : List String}
    {values : List (List Char × List Char)} {attributes : List (String × String)}
    (hs : s.IsClean) (hvalues : ∀ value ∈ values, IsWritten value.1)
    (h : expandAttributes s taken values = .ok attributes) :
    ∀ x ∈ attributes, IsExpanded x.1 := by
  induction values generalizing taken attributes with
  | nil =>
    cases h
    exact fun _ hx => absurd hx List.not_mem_nil
  | cons value values ih =>
    rw [expandAttributes] at h
    split at h
    · cases h
    · rename_i full hfull
      split at h
      · cases h
      · obtain ⟨others, hothers, h⟩ := bind_eq_ok_iff.mp h
        cases h
        intro x hx
        rcases List.mem_cons.mp hx with rfl | hx
        · exact isExpanded_expandAttribute? hs (hvalues value List.mem_cons_self) hfull
        · exact ih (fun v hv => hvalues v (List.mem_cons_of_mem value hv)) hothers x hx

/-! ## Names in a document -/

/-- All names in an element, of its attributes too and at every depth. -/
inductive Element.NamesAll (p : String → Prop) : Element → Prop
  | mk {name text : String} {attributes : List (String × String)} {children : List Element} :
      p name → (∀ x ∈ attributes, p x.1) → (∀ e ∈ children, Element.NamesAll p e) →
        Element.NamesAll p (.mk name attributes text children)

section

variable {p : String → Prop} {names : String → String → Prop}
  {lists : List (String × String) → List (String × String) → Prop}

mutual

/-- Relations between elements need to relate only names that can be found in them. -/
theorem Element.Alike.restrict : ∀ {e e' : Element}, e.Alike names lists e' → e.NamesAll p →
    e'.NamesAll p → e.Alike (fun n n' => names n n' ∧ p n ∧ p n')
      (fun as as' => lists as as' ∧ (∀ x ∈ as, p x.1) ∧ ∀ x ∈ as', p x.1) e'
  | .mk .., .mk .., .mk hname hlist hchildren, .mk hn hattributes hall,
    .mk hn' hattributes' hall' =>
    .mk ⟨hname, hn, hn'⟩ ⟨hlist, hattributes, hattributes'⟩ (restrict_all hchildren hall hall')

theorem Element.Alike.restrict_all : ∀ {es es' : List Element},
    List.Forall₂ (Element.Alike names lists) es es' → (∀ e ∈ es, e.NamesAll p) →
    (∀ e ∈ es', e.NamesAll p) → List.Forall₂ (Element.Alike (fun n n' => names n n' ∧ p n ∧ p n')
      fun as as' => lists as as' ∧ (∀ x ∈ as, p x.1) ∧ ∀ x ∈ as', p x.1) es es'
  | [], [], .nil, _, _ => .nil
  | _ :: _, _ :: _, .cons h hs, hall, hall' =>
    .cons (restrict h (hall _ List.mem_cons_self) (hall' _ List.mem_cons_self))
      (restrict_all hs (fun e he => hall e (List.mem_cons_of_mem _ he))
        fun e he => hall' e (List.mem_cons_of_mem _ he))

end

end

/-- All names in an open element have local parts, and the scope around it is clean. -/
structure OpenElement.IsClean (e : OpenElement) : Prop where
  name : IsExpanded e.name
  attributes : ∀ x ∈ e.attributes, IsExpanded x.1
  children : ∀ x ∈ e.children, x.NamesAll IsExpanded
  outerScope : e.outerScope.IsClean

theorem OpenElement.IsClean.close {e : OpenElement} (h : e.IsClean) :
    e.close.NamesAll IsExpanded :=
  .mk h.name h.attributes fun x hx => h.children x (List.mem_reverse.mp hx)

/-- All names in a document that is being read have local parts, and the bindings in force are
clean. -/
structure Builder.IsClean (b : Builder) : Prop where
  opened : ∀ e ∈ b.opened, e.IsClean
  scope : b.scope.IsClean
  root : ∀ e, b.root = some e → e.NamesAll IsExpanded

namespace Builder.IsClean

theorem initial : Builder.initial.IsClean :=
  ⟨fun _ he => absurd he List.not_mem_nil, Scope.isClean_initial, fun _ h => by cases h⟩

theorem data (h : b.IsClean) (cs : List Char) : (b.data cs).IsClean := by
  obtain ⟨opened, scope, root⟩ := b
  cases opened with
  | nil => exact h
  | cons e r =>
    simp only [Builder.data]
    split
    · have he := h.opened e List.mem_cons_self
      refine ⟨fun x hx => ?_, h.scope, h.root⟩
      rcases List.mem_cons.mp hx with rfl | hx
      · exact ⟨he.name, he.attributes, he.children, he.outerScope⟩
      · exact h.opened x (List.mem_cons_of_mem e hx)
    · exact h

theorem finish (h : b.IsClean) : b.finish.IsClean := by
  obtain ⟨opened, scope, root⟩ := b
  cases opened with
  | nil => exact h
  | cons e r =>
    have he := h.opened e List.mem_cons_self
    -- the element that is closed becomes the root, or a child of the element around it
    cases r with
    | nil =>
      refine ⟨fun x hx => absurd hx List.not_mem_nil, he.outerScope, fun x hx => ?_⟩
      rw [← Option.some.inj hx]
      exact he.close
    | cons p r =>
      have hp := h.opened p (List.mem_cons_of_mem e List.mem_cons_self)
      refine ⟨fun x hx => ?_, he.outerScope, h.root⟩
      rcases List.mem_cons.mp hx with rfl | hx
      · refine ⟨hp.name, hp.attributes, fun y hy => ?_, hp.outerScope⟩
        rcases List.mem_cons.mp hy with rfl | hy
        · exact he.close
        · exact hp.children y hy
      · exact h.opened x (List.mem_cons_of_mem e (List.mem_cons_of_mem p hx))

/-- A start tag whose names have at most one prefix opens an element with local parts. -/
theorem openElement {tag : StartTag} (hd : t.definitions.IsClean) (hb : b.IsClean)
    (hname : k.IsQualified tag.name) (hnames : ∀ w ∈ tag.attributes, k.IsQualified w.name)
    (h : openElement t token tag b = .ok c) : c.IsClean := by
  obtain ⟨a₁, hwritten, h⟩ := bind_eq_ok_iff.mp h
  obtain ⟨a₂, hdeclared, h⟩ := bind_eq_ok_iff.mp h
  -- the attributes are taken in one scope after the other, from that of the element around it
  have hnone : TakenAttributes.IsClean ⟨[], [], b.scope⟩ :=
    ⟨fun _ hv => absurd hv List.not_mem_nil, hb.scope⟩
  have ha₁ := isClean_of_takeWritten (fun w hw => isWritten_of_isQualified (hnames w hw)) hnone
    hwritten
  have ha₂ := isClean_of_takeDeclared (hd.attributesOf tag.name) ha₁ hdeclared
  split at h
  · cases h
  · rename_i attributes hattributes
    split at h
    · cases h
    · rename_i name hexpanded
      cases h
      refine ⟨fun e he => ?_, ha₂.scope, hb.root⟩
      rcases List.mem_cons.mp he with rfl | he
      · exact ⟨isExpanded_expandElement? ha₂.scope (isWritten_of_isQualified hname) hexpanded,
          isExpanded_of_expandAttributes ha₂.scope ha₂.values hattributes,
          fun _ hx => absurd hx List.not_mem_nil, hb.scope⟩
      · exact hb.opened e he

end Builder.IsClean

/-! ## Walks -/

/-- What holds of a builder is kept by the steps of a walk where these definitions are in force. -/
structure Keeps (d : Definitions) (p : Builder → Prop) : Prop where
  data : ∀ b cs, p b → p (b.data cs)
  finish : ∀ b, p b → p b.finish
  start : ∀ t token tag b c (k : NameClass), t.definitions = d → k.IsQualified tag.name →
    (∀ w ∈ tag.attributes, k.IsQualified w.name) → openElement t token tag b = .ok c → p b → p c

variable {d : Definitions} {p : Builder → Prop}

theorem Keeps.walkSection (hp : Keeps d p) {fuel : Nat} (hb : p b)
    (h : walkSection t fuel b gs = .ok (c, rest)) : p c := by
  induction fuel generalizing b gs with
  | zero => cases h
  | succ fuel ih =>
    rw [Xml.walkSection] at h
    split at h
    · exact ih (hp.data b _ hb) h
    · cases h
      exact hb
    · cases h
    · exact absurd h stop_ne_ok

theorem Keeps.steps (hp : Keeps d p) {expand : Expansion} (hexpand : ∀ t text b c,
      t.definitions = d → p b → expand t text b = .ok c → p c)
    (ht : t.definitions = d) {piece : Piece} {r : Source}
    (hpiece : nextPiece t.names gs = .piece piece r) (hb : p b)
    (h : Steps expand t gs b piece r c rest) : p c := by
  cases h with
  | data cs => exact hp.data b cs hb
  | comment => exact hb
  | instruction => exact hb
  | sectionStart hsection => exact hp.walkSection hb hsection
  | start _ hopen =>
    obtain ⟨hname, hnames⟩ := isQualified_of_nextPiece hpiece
    have hstart := hp.start t gs _ b _ _ ht hname hnames hopen hb
    split
    · exact hp.finish _ hstart
    · exact hstart
  | finish _ hclose =>
    rw [eq_finish_of_closeElement hclose]
    exact hp.finish b hb
  | character | predefined => exact hp.data b _ hb
  | @internal name text b' r hnone hentity hopened hinside =>
    have hd : (entityContext t gs name b).definitions = d := ht
    exact hexpand _ text b c hd hb hinside

/-- What the steps keep holds at the end of a walk. -/
theorem Keeps.walk (hp : Keeps d p) {expand : Expansion} (hexpand : ∀ t text b c,
      t.definitions = d → p b → expand t text b = .ok c → p c)
    (ht : t.definitions = d) {fuel : Nat} (hb : p b)
    (h : walk expand t fuel b gs = .ok (c, rest)) : p c := by
  induction fuel generalizing b gs with
  | zero => cases h
  | succ fuel ih =>
    cases hnext : nextPiece t.names gs with
    | piece piece r =>
      obtain ⟨b', r', hstep, h⟩ := exists_steps_of_walk hnext h
      have hb' := hp.steps hexpand ht hnext hb hstep
      split at h
      · cases h
        exact hb'
      · exact ih hb' h
    | finished | lastReturn | lastBracket | stopped =>
      obtain ⟨cs, -, rfl⟩ := exists_data_of_walk (by simp [hnext]) h
      exact hp.data b cs hb

theorem Keeps.walkEntity (hp : Keeps d p) (n : Nat) : ∀ t text b c, t.definitions = d → p b →
    walkEntity n t text b = .ok c → p c := by
  induction n with
  | zero =>
    intro t text b c ht hb h
    cases h
  | succ n ih =>
    intro t text b c ht hb h
    obtain ⟨⟨b', r⟩, hwalk, h⟩ := bind_eq_ok_iff.mp h
    cases h
    exact hp.walk ih ht hb hwalk

theorem Keeps.content (hp : Keeps d p) (hinitial : p Builder.initial)
    (h : Content.read k d gs = .ok (c, rest)) : p c :=
  hp.walk (hp.walkEntity _) rfl hinitial h

/-- Every name of a document that is read has a local part. -/
theorem namesAll_of_read {octets : Text.Octets} {e : Element} (h : Document.read octets = .ok e) :
    e.NamesAll IsExpanded := by
  obtain ⟨x, gs, b, rest, hstart, hcontent, hroot⟩ := exists_content_of_read h
  have hd := isClean_of_startOf hstart
  have hkeeps : Keeps x.definitions Builder.IsClean :=
    { data := fun b cs hb => hb.data cs
      finish := fun b hb => hb.finish
      start := fun t token tag b c k ht hname hnames hopen hb =>
        hb.openElement (ht ▸ hd) hname hnames hopen }
  exact (hkeeps.content Builder.IsClean.initial hcontent).root e hroot

end ContractDrift.Xml
