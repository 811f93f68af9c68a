/-
Documents that differ in the order of attributes.

Two texts are `Reordered` if they have the same pieces, where start tags may have their attributes
in different orders.  One piece of both changes what is built in the same way (`steps_alike`), so if
both are walked over to the end, what is built differs in the order of attributes only
(`walk_alike`), and so do the elements of two documents with such contents behind prologs that
declare the same (`reorders_of_isReordering`).

Design notes: both texts are known to be well-formed, so the two walks are compared where they
succeed, each with its own fuel.  A text may be followed to its end even where nothing is
reordered any more (`Reordered.refl`), which is how the texts of entities are compared.
-/
import ContractDrift.Proofs.Xml.AttributeOrder
import ContractDrift.Proofs.Xml.SameTree
import ContractDrift.Proofs.Xml.Walk
import ContractDrift.Proofs.Xml.WellFormed

namespace ContractDrift.Xml

/-! ## What is built -/

/-- Two elements differ at most in the order of attributes, at every depth. -/
def Element.Reorders (e e' : Element) : Prop := e.Alike (· = ·) List.Perm e'

/-- Two open elements differ at most in the order of attributes. -/
structure OpenElement.Alike (e e' : OpenElement) : Prop where
  writtenName_eq : e.writtenName = e'.writtenName
  name_eq : e.name = e'.name
  attributes : e.attributes.Perm e'.attributes
  text_eq : e.text = e'.text
  children : List.Forall₂ Element.Reorders e.children e'.children
  outerScope : e.outerScope.Alike e'.outerScope

theorem OpenElement.Alike.close {e e' : OpenElement} (h : e.Alike e') :
    e.close.Reorders e'.close := by
  rw [OpenElement.close, OpenElement.close, h.text_eq]
  exact .mk h.name_eq h.attributes (List.rel_reverse h.children)

/-- Two documents that are being read differ at most in the order of attributes. -/
structure Builder.Alike (b b' : Builder) : Prop where
  opened : List.Forall₂ OpenElement.Alike b.opened b'.opened
  scope : b.scope.Alike b'.scope
  root : Option.Rel Element.Reorders b.root b'.root

namespace Builder.Alike

variable {b b' : Builder}

theorem depth_eq (h : b.Alike b') : b.depth = b'.depth := h.opened.length_eq

theorem start (h : b.Alike b') (writtenName : List Char) (name : String)
    {attributes attributes' : List (String × String)} {scope scope' : Scope}
    (hattributes : attributes.Perm attributes') (hscope : scope.Alike scope') :
    (b.start writtenName name attributes scope).Alike
      (b'.start writtenName name attributes' scope') :=
  ⟨.cons ⟨rfl, rfl, hattributes, rfl, .nil, h.scope⟩ h.opened, hscope, h.root⟩

theorem data (h : b.Alike b') (cs : List Char) : (b.data cs).Alike (b'.data cs) := by
  obtain ⟨opened, scope, root⟩ := b
  obtain ⟨opened', scope', root'⟩ := b'
  obtain ⟨hopened, hscope, hroot⟩ := h
  cases hopened with
  | nil => exact ⟨.nil, hscope, hroot⟩
  | @cons e e' r r' he hr =>
    -- text is kept only in front of the first child, and both have a child or neither has
    have hempty : e.children.isEmpty = e'.children.isEmpty := by
      have hlength := he.children.length_eq
      rw [Bool.eq_iff_iff, List.isEmpty_iff_length_eq_zero, List.isEmpty_iff_length_eq_zero,
        hlength]
    simp only [Builder.data, hempty]
    split
    · have htext : cs.reverse ++ e.text = cs.reverse ++ e'.text := by rw [he.text_eq]
      refine ⟨.cons ?_ hr, hscope, hroot⟩
      exact ⟨he.writtenName_eq, he.name_eq, he.attributes, htext, he.children, he.outerScope⟩
    · exact ⟨.cons he hr, hscope, hroot⟩

theorem finish (h : b.Alike b') : b.finish.Alike b'.finish := by
  obtain ⟨opened, scope, root⟩ := b
  obtain ⟨opened', scope', root'⟩ := b'
  obtain ⟨hopened, hscope, hroot⟩ := h
  cases hopened with
  | nil => exact ⟨.nil, hscope, hroot⟩
  | cons he hr =>
    cases hr with
    | nil => exact ⟨.nil, he.outerScope, .some he.close⟩
    | cons hp hr =>
      refine ⟨.cons ?_ hr, he.outerScope, hroot⟩
      exact ⟨hp.writtenName_eq, hp.name_eq, hp.attributes, hp.text_eq,
        .cons he.close hp.children, hp.outerScope⟩

end Builder.Alike

variable {t t' : TextContext} {token token' gs gs' rest rest' : Source} {b b' c c' : Builder}

theorem closeElement_alike {name : List Char} (hb : b.Alike b')
    (h : closeElement t token name b = .ok c) (h' : closeElement t' token' name b' = .ok c') :
    c.Alike c' := by
  rw [eq_finish_of_closeElement h, eq_finish_of_closeElement h']
  exact hb.finish

/-! ## Texts -/

/-- Whether a piece is compared as it is: neither a start tag nor the start of a section. -/
def Piece.isPlain : Piece → Bool
  | .start _ => false
  | .sectionStart => false
  | _ => true

mutual

/-- Two texts have the same pieces, where the attributes of start tags may be in different
orders. -/
inductive Reordered (k : NameClass) : Source → Source → Prop
  | refl (gs : Source) : Reordered k gs gs
  | piece {gs gs' r r' : Source} {p : Piece} : nextPiece k gs = .piece p r →
      nextPiece k gs' = .piece p r' → p.isPlain = true → Reordered k r r' → Reordered k gs gs'
  | start {gs gs' r r' : Source} {tag tag' : StartTag} : nextPiece k gs = .piece (.start tag) r →
      nextPiece k gs' = .piece (.start tag') r' → tag.Reorders tag' → Reordered k r r' →
        Reordered k gs gs'
  | sectionStart {gs gs' r r' : Source} : nextPiece k gs = .piece .sectionStart r →
      nextPiece k gs' = .piece .sectionStart r' → ReorderedSection k r r' → Reordered k gs gs'

/-- Two texts are the same up to the end of a section of character data, and are reordered behind
it. -/
inductive ReorderedSection (k : NameClass) : Source → Source → Prop
  | refl (gs : Source) : ReorderedSection k gs gs
  | data {gs gs' r r' : Source} {cs : List Char} : nextSectionPiece gs = .data cs r →
      nextSectionPiece gs' = .data cs r' → ReorderedSection k r r' → ReorderedSection k gs gs'
  | closed {gs gs' r r' : Source} : nextSectionPiece gs = .closed r →
      nextSectionPiece gs' = .closed r' → Reordered k r r' → ReorderedSection k gs gs'

end

/-- The next pieces of two reordered texts, and what is left after them. -/
inductive PiecesAlike (k : NameClass) : PieceStep → PieceStep → Prop
  | plain {p : Piece} {r r' : Source} : p.isPlain = true → Reordered k r r' →
      PiecesAlike k (.piece p r) (.piece p r')
  | start {tag tag' : StartTag} {r r' : Source} :
      (∀ w ∈ tag.attributes, k.IsQualified w.name) → tag.Reorders tag' → Reordered k r r' →
        PiecesAlike k (.piece (.start tag) r) (.piece (.start tag') r')
  | sectionStart {r r' : Source} : ReorderedSection k r r' →
      PiecesAlike k (.piece .sectionStart r) (.piece .sectionStart r')

/-- Where two reordered texts have a next piece they agree in it; elsewhere they are the same. -/
theorem Reordered.next {k : NameClass} (h : Reordered k gs gs') :
    PiecesAlike k (nextPiece k gs) (nextPiece k gs') ∨
      gs = gs' ∧ ∀ p r, nextPiece k gs ≠ .piece p r := by
  cases h with
  | refl =>
    -- a text is reordered to itself piece by piece
    cases hnext : nextPiece k gs with
    | piece p r =>
      refine .inl ?_
      cases p with
      | start tag =>
        exact .start (isQualified_of_nextPiece hnext).2 ⟨rfl, rfl, .refl _⟩ (.refl r)
      | sectionStart => exact .sectionStart (.refl r)
      | _ => exact .plain rfl (.refl r)
    | _ => exact .inr ⟨rfl, fun _ _ h => by cases h⟩
  | piece hgs hgs' hplain hrest =>
    rw [hgs, hgs']
    exact .inl (.plain hplain hrest)
  | start hgs hgs' htag hrest =>
    rw [hgs, hgs']
    exact .inl (.start (isQualified_of_nextPiece hgs).2 htag hrest)
  | sectionStart hgs hgs' hsection =>
    rw [hgs, hgs']
    exact .inl (.sectionStart hsection)

/-! ## Walks -/

theorem walkSection_alike {k : NameClass} {n n' : Nat} (hrel : ReorderedSection k gs gs')
    (hb : b.Alike b') (h : walkSection t n b gs = .ok (c, rest))
    (h' : walkSection t' n' b' gs' = .ok (c', rest')) : c.Alike c' ∧ Reordered k rest rest' := by
  induction n generalizing n' b b' gs gs' with
  | zero => cases h
  | succ n ih =>
    cases n' with
    | zero => cases h'
    | succ n' =>
      rw [walkSection] at h h'
      -- inside a section the texts are the same, and behind it they may differ
      cases hrel with
      | refl =>
        cases hnext : nextSectionPiece gs with
        | data cs r =>
          simp only [hnext] at h h'
          exact ih (.refl r) (hb.data cs) h h'
        | closed r =>
          simp only [hnext] at h h'
          cases h
          cases h'
          exact ⟨hb, .refl _⟩
        | unclosed =>
          simp only [hnext] at h
          cases h
        | stopped s =>
          simp only [hnext] at h
          exact absurd h stop_ne_ok
      | @data _ _ _ _ cs hgs hgs' hrest =>
        simp only [hgs] at h
        simp only [hgs'] at h'
        exact ih hrest (hb.data cs) h h'
      | closed hgs hgs' hrest =>
        simp only [hgs] at h
        simp only [hgs'] at h'
        cases h
        cases h'
        exact ⟨hb, hrest⟩

/-- How the texts of entities are walked over keeps what is built alike. -/
def ExpandsAlike (expand : Expansion) : Prop :=
  ∀ ⦃t t' : TextContext⦄ ⦃text : List Char⦄ ⦃b b' c c' : Builder⦄, t.Alike t' → b.Alike b' →
    expand t text b = .ok c → expand t' text b' = .ok c' → c.Alike c'

theorem TextContext.Alike.entityContext (ht : t.Alike t') (hb : b.Alike b') (name : List Char) :
    (entityContext t token name b).Alike (entityContext t' token' name b') where
  names_eq := rfl
  definitions_eq := ht.definitions_eq
  opened_eq := congrArg (name :: ·) ht.opened_eq
  floor_eq := hb.depth_eq
  isOuter_eq := rfl

theorem PiecesAlike.exists_pieces {k : NameClass} {step step' : PieceStep}
    (h : PiecesAlike k step step') : ∃ p r p' r', step = .piece p r ∧ step' = .piece p' r' := by
  cases h with
  | plain | start | sectionStart => exact ⟨_, _, _, _, rfl, rfl⟩

theorem PiecesAlike.isTag_eq {k : NameClass} {p p' : Piece} {r r' : Source}
    (h : PiecesAlike k (.piece p r) (.piece p' r')) : p.isTag = p'.isTag := by
  cases h with
  | plain | start | sectionStart => rfl

/-- Pieces that are alike change what is built in the same way, and what is left behind them is
reordered. -/
theorem steps_alike {expand : Expansion} (hexpand : ExpandsAlike expand) (ht : t.Alike t')
    {p p' : Piece} {r r' : Source} (hpieces : PiecesAlike t.names (.piece p r) (.piece p' r'))
    (hb : b.Alike b') (h : Steps expand t gs b p r c rest)
    (h' : Steps expand t' gs' b' p' r' c' rest') :
    c.Alike c' ∧ Reordered t.names rest rest' := by
  cases hpieces with
  | plain hplain hrest =>
    have hsection : p ≠ .sectionStart := by
      rintro rfl
      cases hplain
    rw [h.rest_eq hsection, h'.rest_eq hsection]
    refine ⟨?_, hrest⟩
    cases h with
    | start | sectionStart => cases hplain
    | data cs =>
      cases h'
      exact hb.data cs
    | comment | instruction =>
      cases h'
      exact hb
    | finish _ hclose =>
      cases h' with
      | finish _ hclose' => exact closeElement_alike hb hclose hclose'
    | character _ hx =>
      cases h' with
      | character _ hx' =>
        obtain rfl := Option.some.inj (hx.symm.trans hx')
        exact hb.data _
    | predefined _ hx =>
      cases h' with
      | predefined _ hx' =>
        obtain rfl := Option.some.inj (hx.symm.trans hx')
        exact hb.data _
      | internal _ hnone => exact absurd (hx.symm.trans hnone) nofun
    | internal _ hnone hentity _ hinside =>
      cases h' with
      | predefined _ hx' => exact absurd (hx'.symm.trans hnone) nofun
      | internal _ _ hentity' _ hinside' =>
        -- both texts have the definition of the entity in common
        rw [← ht.definitions_eq, hentity] at hentity'
        cases hentity'
        exact hexpand (ht.entityContext hb _) hb hinside hinside'
  | @start tag tag' r r' hnames htags hrest =>
    cases h with
    | start _ hopen =>
      cases h' with
      | start _ hopen' =>
        obtain ⟨name, attributes, attributes', scope, scope', hperm, hscope, rfl, rfl⟩ :=
          openElement_alike ht htags hnames hb.scope hopen hopen'
        refine ⟨?_, hrest⟩
        have hstart := hb.start tag.name name hperm hscope
        rw [← htags.isEmpty_eq]
        split
        · exact hstart.finish
        · exact hstart
  | sectionStart hsection =>
    cases h with
    | sectionStart hwalk =>
      cases h' with
      | sectionStart hwalk' => exact walkSection_alike hsection hb hwalk hwalk'

theorem walk_alike {expand : Expansion} (hexpand : ExpandsAlike expand) (ht : t.Alike t')
    {n n' : Nat} (hrel : Reordered t.names gs gs') (hb : b.Alike b')
    (h : walk expand t n b gs = .ok (c, rest))
    (h' : walk expand t' n' b' gs' = .ok (c', rest')) : c.Alike c' := by
  induction n generalizing n' b b' gs gs' with
  | zero => cases h
  | succ n ih =>
    cases n' with
    | zero => cases h'
    | succ n' =>
      rcases hrel.next with hpieces | ⟨rfl, hnone⟩
      · obtain ⟨p, r, p', r', hp, hp'⟩ := hpieces.exists_pieces
        rw [hp, hp'] at hpieces
        rw [ht.names_eq] at hp'
        obtain ⟨d, q, hstep, h⟩ := exists_steps_of_walk hp h
        obtain ⟨d', q', hstep', h'⟩ := exists_steps_of_walk hp' h'
        obtain ⟨hd, hrest⟩ := steps_alike hexpand ht hpieces hb hstep hstep'
        rw [← hpieces.isTag_eq, ← hd.depth_eq] at h'
        -- behind a tag the walks end together, with the root, or they both go on
        by_cases hroot : p.isTag = true ∧ d.depth = 0
        · rw [if_pos hroot] at h h'
          cases h
          cases h'
          exact hd
        · rw [if_neg hroot] at h h'
          exact ih hrest hd h h'
      · obtain ⟨cs, hlast, rfl⟩ := exists_data_of_walk hnone h
        rw [ht.names_eq] at hnone hlast
        obtain ⟨cs', hlast', rfl⟩ := exists_data_of_walk hnone h'
        obtain rfl := Option.some.inj (hlast.symm.trans hlast')
        exact hb.data cs

theorem expandsAlike_walkEntity (n : Nat) : ExpandsAlike (walkEntity n) := by
  induction n with
  | zero =>
    intro t t' text b b' c c' ht hb h h'
    cases h
  | succ n ih =>
    intro t t' text b b' c c' ht hb h h'
    obtain ⟨⟨d, r⟩, hwalk, h⟩ := bind_eq_ok_iff.mp h
    obtain ⟨⟨d', r'⟩, hwalk', h'⟩ := bind_eq_ok_iff.mp h'
    cases h
    cases h'
    exact walk_alike ih ht (.refl _) hb hwalk hwalk'

/-- The contents of two documents that declare the same are built alike. -/
theorem Content.read_alike {k : NameClass} {d : Definitions} (hrel : Reordered k gs gs')
    (h : Content.read k d gs = .ok (c, rest)) (h' : Content.read k d gs' = .ok (c', rest')) :
    c.Alike c' := by
  have ht : TextContext.Alike ⟨k, d, none, [], 0⟩ ⟨k, d, none, [], 0⟩ := ⟨rfl, rfl, rfl, rfl, rfl⟩
  have hb : Builder.initial.Alike Builder.initial := ⟨.nil, fun _ => rfl, .none⟩
  exact walk_alike (expandsAlike_walkEntity _) ht hrel hb h h'

/-! ## Documents -/

/-- Two documents declare the same, and their contents are reordered. -/
def IsReordering (octets octets' : Text.Octets) : Prop :=
  ∃ d gs d' gs', startOf octets = .ok (d, gs) ∧ startOf octets' = .ok (d', gs') ∧
    d.form.names = d'.form.names ∧ d.definitions = d'.definitions ∧
    Reordered d.form.names gs gs'

/-- Well-formed documents whose attributes are written in different orders have elements that
differ in the order of attributes only. -/
theorem reorders_of_isReordering {octets octets' : Text.Octets} {e e' : Element}
    (h : Document.read octets = .ok e) (h' : Document.read octets' = .ok e')
    (hreordering : IsReordering octets octets') : e.Reorders e' := by
  obtain ⟨d, gs, b, rest, hstart, hcontent, hroot⟩ := exists_content_of_read h
  obtain ⟨d', gs', b', rest', hstart', hcontent', hroot'⟩ := exists_content_of_read h'
  obtain ⟨d₁, gs₁, d₁', gs₁', h₁, h₁', hnames, hdefinitions, hrel⟩ := hreordering
  obtain ⟨rfl, rfl⟩ : d = d₁ ∧ gs = gs₁ := Prod.mk.inj (Except.ok.inj (hstart.symm.trans h₁))
  obtain ⟨rfl, rfl⟩ : d' = d₁' ∧ gs' = gs₁' := Prod.mk.inj (Except.ok.inj (hstart'.symm.trans h₁'))
  rw [← hnames, ← hdefinitions] at hcontent'
  have hroots := (Content.read_alike hrel hcontent hcontent').root
  rw [hroot, hroot'] at hroots
  cases hroots with
  | some hroots => exact hroots

/-! ## Telling whether documents are reordered -/

instance (tag tag' : StartTag) : Decidable (tag.Reorders tag') :=
  decidable_of_iff (tag.name = tag'.name ∧ tag.isEmpty = tag'.isEmpty ∧
    (tag.attributes.map fun w => (w.name, w.value)).Perm
      (tag'.attributes.map fun w => (w.name, w.value)))
    ⟨fun h => ⟨h.1, h.2.1, h.2.2⟩, fun h => ⟨h.name_eq, h.isEmpty_eq, h.perm⟩⟩

/-- Whether two texts without sections of character data are found to be reordered within `n`
pieces. -/
def reordered? (k : NameClass) : (n : Nat) → Source → Source → Bool
  | 0, gs, gs' => gs == gs'
  | n + 1, gs, gs' =>
    match nextPiece k gs, nextPiece k gs' with
    | .piece (.start tag) r, .piece (.start tag') r' =>
      decide (tag.Reorders tag') && reordered? k n r r'
    | .piece p r, .piece p' r' => p == p' && p.isPlain && reordered? k n r r'
    | _, _ => gs == gs'

theorem reordered_of_check {k : NameClass} {n : Nat} (h : reordered? k n gs gs' = true) :
    Reordered k gs gs' := by
  induction n generalizing gs gs' with
  | zero =>
    rw [eq_of_beq h]
    exact .refl gs'
  | succ n ih =>
    unfold reordered? at h
    -- tags up to their attributes, the other pieces as they are, and at last the rests of the texts
    split at h
    · rename_i hgs hgs'
      rw [Bool.and_eq_true, decide_eq_true_iff] at h
      exact .start hgs hgs' h.1 (ih h.2)
    · rename_i _ hgs hgs'
      rw [Bool.and_eq_true, Bool.and_eq_true] at h
      rw [← eq_of_beq h.1.1] at hgs'
      exact .piece hgs hgs' h.1.2 (ih h.2)
    · rw [eq_of_beq h]
      exact .refl gs'

/-- Whether two documents are found to be reordered within `n` pieces. -/
def isReordering? (n : Nat) (octets octets' : Text.Octets) : Bool :=
  match startOf octets, startOf octets' with
  | .ok (d, gs), .ok (d', gs') =>
    d.form.names == d'.form.names && d.definitions == d'.definitions &&
      reordered? d.form.names n gs gs'
  | _, _ => false

theorem isReordering_of_check {n : Nat} {octets octets' : Text.Octets}
    (h : isReordering? n octets octets' = true) : IsReordering octets octets' := by
  unfold isReordering? at h
  split at h
  · rename_i d gs d' gs' hstart hstart'
    rw [Bool.and_eq_true, Bool.and_eq_true] at h
    exact ⟨d, gs, d', gs', hstart, hstart', eq_of_beq h.1.1, eq_of_beq h.1.2,
      reordered_of_check h.2⟩
  · cases h

end ContractDrift.Xml
