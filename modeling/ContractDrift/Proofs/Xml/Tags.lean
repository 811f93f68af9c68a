/-
Tags open and close the elements that they were written for.

`Builder.within` is a document inside one more open element, and `Builder.addChild` one
whose innermost open element has one more child.  The walk over the three kinds of tags:

* `Passes.start` — a start tag with declarations of prefixes opens its element;
* `Passes.empty` — the tag of an element without content adds it to the element around it;
* `Passes.finish` — so does the end tag of an element that has been open.
-/
import ContractDrift.Proofs.Xml.CharacterData
import ContractDrift.Proofs.Xml.PrefixDeclaration

namespace ContractDrift.Xml

variable {b : Builder} {s : Scope}

/-! ## Tags -/

theorem length_le_length_written (ds : List Declared) :
    ds.length ≤ (ds.flatMap Declared.written).length := by
  induction ds with
  | nil => exact Nat.le_refl 0
  | cons d ds ih =>
    rw [List.flatMap_cons, List.length_append, List.length_cons, Declared.written, List.length_cons]
    omega

theorem scanStartTag_append {tag : List Char} (htag : NameClass.plain.IsQualified tag)
    {ds : List Declared} (hds : ∀ d ∈ ds, NameClass.plain.isName d.pfx = true) (r : Source) :
    ∃ ws, List.Forall₂ WrittenAttribute.Declares ws ds ∧
      scanStartTag .plain (glyphs tag ++ (glyphs (ds.flatMap Declared.written) ++ .char '>' :: r)) =
        .ok (⟨tag, ws, false⟩, r) := by
  have hlen : ds.length <
      (glyphs (ds.flatMap Declared.written) ++ (.char '>' : Glyph) :: r).length + 1 := by
    have := length_le_length_written ds
    rw [List.length_append, length_glyphs]
    omega
  obtain ⟨ws, hws, hrest⟩ := scanTagRest_declarations tag hds hlen [] r
  refine ⟨ws, hws, ?_⟩
  have hname : scanQualifiedName .plain
      (glyphs tag ++ (glyphs (ds.flatMap Declared.written) ++ .char '>' :: r)) =
        .ok (tag, glyphs (ds.flatMap Declared.written) ++ .char '>' :: r) := by
    -- the name ends at a blank, or at the closing sign where nothing is declared
    cases ds with
    | nil => exact scanQualifiedName_append htag (by decide) r
    | cons d ds => exact scanQualifiedName_append htag (by decide) _
  simp only [scanStartTag, hname, bind, Except.bind, hrest]
  rfl

theorem scanStartTag_empty {tag : List Char} (htag : NameClass.plain.IsQualified tag) (r : Source) :
    scanStartTag .plain (glyphs tag ++ glyphs [' ', '/', '>'] ++ r) = .ok (⟨tag, [], true⟩, r) := by
  have hname := scanQualifiedName_append htag (show NameClass.plain.stopsAt ' ' = true by decide)
    (glyphs ['/', '>'] ++ r)
  rw [List.append_assoc]
  simp only [scanStartTag, bind, Except.bind]
  rw [show glyphs [' ', '/', '>'] ++ r = .char ' ' :: (glyphs ['/', '>'] ++ r) from rfl, hname]
  rfl

/-- What starts as a name after an opening bracket is a start tag. -/
theorem nextPiece_tag {tag : List Char} (htag : NameClass.plain.IsQualified tag) {gs r : Source}
    {t : StartTag} (h : scanStartTag .plain (glyphs tag ++ gs) = .ok (t, r)) :
    nextPiece .plain (.char '<' :: (glyphs tag ++ gs)) = .piece (.start t) r := by
  obtain ⟨c, cs, rfl, hc, -⟩ := htag.eq_cons
  -- no other markup starts like a name
  have h1 : c ≠ '!' := NameClass.ne_of_starts hc (by decide)
  have h2 : c ≠ '?' := NameClass.ne_of_starts hc (by decide)
  have h3 : c ≠ '/' := NameClass.ne_of_starts hc (by decide)
  have hmarkup : scanMarkup .plain (glyphs (c :: cs) ++ gs) = .ok (.start t, r) := by
    rw [glyphs_cons, List.cons_append] at h ⊢
    unfold scanMarkup
    split <;> simp_all [bind, Except.bind, pure, Except.pure]
  simp only [nextPiece, hmarkup]

theorem nextPiece_endTag {tag : List Char} (htag : NameClass.plain.IsQualified tag) (r : Source) :
    nextPiece .plain (glyphs ('<' :: '/' :: tag ++ ['>']) ++ r) = .piece (.finish tag) r := by
  have hsplit : glyphs ('<' :: '/' :: tag ++ ['>']) ++ r =
      .char '<' :: .char '/' :: (glyphs tag ++ .char '>' :: r) := by simp
  have hmarkup : scanMarkup .plain (.char '/' :: (glyphs tag ++ .char '>' :: r)) =
      .ok (.finish tag, r) := by
    simp only [scanMarkup, scanEndTag_append htag, bind, Except.bind]
    rfl
  rw [hsplit]
  simp only [nextPiece, hmarkup]

/-! ## Elements while they are open -/

namespace Builder

/-- The builder with one more child in the innermost open element. -/
def addChild (b : Builder) (e : Element) : Builder :=
  match b.opened with
  | [] => b
  | p :: r => { b with opened := { p with children := e :: p.children } :: r }

/-- The builder inside one more open element. -/
def within (b : Builder) (e : OpenElement) (s : Scope) : Builder :=
  { b with opened := e :: b.opened, scope := s }

theorem opened_addChild_ne_nil {b : Builder} (h : b.opened ≠ []) (e : Element) :
    (b.addChild e).opened ≠ [] := by
  obtain ⟨opened, scope, root⟩ := b
  cases opened with
  | nil => exact absurd rfl h
  | cons p r => simp [addChild]

theorem depth_addChild_ne_zero {b : Builder} (h : b.opened ≠ []) (e : Element) :
    (b.addChild e).depth ≠ 0 := by
  have hopened := opened_addChild_ne_nil h e
  simpa [depth] using hopened

theorem scope_addChild (b : Builder) (e : Element) : (b.addChild e).scope = b.scope := by
  unfold addChild
  split <;> rfl

theorem data_within {e : OpenElement} (h : e.children = []) (b : Builder) (s : Scope)
    (cs : List Char) :
    (b.within e s).data cs = b.within { e with text := cs.reverse ++ e.text } s := by
  simp [within, data, h]

theorem data_within_of_children {e : OpenElement} (h : e.children ≠ []) (b : Builder) (s : Scope)
    (cs : List Char) : (b.within e s).data cs = b.within e s := by
  simp [within, data, h]

/-- Closing an element gives it to the element around it. -/
theorem finish_within {b : Builder} (hb : b.opened ≠ []) {e : OpenElement}
    (he : e.outerScope = b.scope) (s : Scope) : (b.within e s).finish = b.addChild e.close := by
  obtain ⟨opened, scope, root⟩ := b
  cases opened with
  | nil => exact absurd rfl hb
  | cons p r =>
    simp only at he
    simp [within, finish, addChild, he]

end Builder

theorem closeElement_within (token : Source) (b : Builder) (e : OpenElement) (s : Scope) :
    closeElement documentContext token e.writtenName (b.within e s) =
      .ok (b.within e s).finish := by
  have hdepth : ¬ (b.within e s).depth ≤ documentContext.floor := by
    simp [Builder.depth, Builder.within, documentContext]
  rw [closeElement, if_neg hdepth]
  simp [Builder.within]

/-- The start tag of an element, with declarations, opens it. -/
theorem Passes.start (expand : Expansion) {tag : List Char} {name : String}
    (htag : NameClass.plain.IsQualified tag) {ds : List Declared} (hds : ∀ d ∈ ds, d.Valid)
    (hnodup : (ds.map Declared.pfx).Nodup)
    (hname : (b.scope.declare ds).expandElement? tag = some name) (r : Source) :
    Passes expand b (glyphs ('<' :: tag ++ ds.flatMap Declared.written ++ ['>']) ++ r)
      (b.within ⟨tag, name, [], [], [], b.scope⟩ (b.scope.declare ds)) r := by
  obtain ⟨ws, hws, hscan⟩ := scanStartTag_append htag (fun d hd => (hds d hd).isName) r
  have hpiece := nextPiece_tag htag hscan
  have hsplit : glyphs ('<' :: tag ++ ds.flatMap Declared.written ++ ['>']) ++ r =
      .char '<' :: (glyphs tag ++ (glyphs (ds.flatMap Declared.written) ++ .char '>' :: r)) := by
    simp
  rw [← hsplit] at hpiece
  have hopen := openElement_declarations hws hds hnodup
    (glyphs ('<' :: tag ++ ds.flatMap Declared.written ++ ['>']) ++ r) false b hname
  refine .of_steps hpiece (by simp) (.start r hopen) fun hroot => ?_
  -- an element has just been opened, so the root is not complete
  have hdepth := Builder.depth_start b tag name [] (b.scope.declare ds)
  exact absurd (hdepth.symm.trans hroot.2) (Nat.succ_ne_zero _)

/-- The tag of an element without content gives it to the element around it. -/
theorem Passes.empty (expand : Expansion) {tag : List Char} {name : String}
    (htag : NameClass.plain.IsQualified tag) (hname : b.scope.expandElement? tag = some name)
    (hb : b.opened ≠ []) (r : Source) :
    Passes expand b (glyphs ('<' :: tag ++ [' ', '/', '>']) ++ r)
      (b.addChild (.mk name [] "" [])) r := by
  have hsplit : glyphs ('<' :: tag ++ [' ', '/', '>']) ++ r =
      .char '<' :: (glyphs tag ++ (glyphs [' ', '/', '>'] ++ r)) := by simp
  have hpiece := nextPiece_tag htag
    (by rw [← List.append_assoc]; exact scanStartTag_empty htag r)
  rw [← hsplit] at hpiece
  have hnone : List.Forall₂ WrittenAttribute.Declares [] [] := .nil
  have hopen := openElement_declarations hnone (fun _ h => absurd h List.not_mem_nil) .nil
    (glyphs ('<' :: tag ++ [' ', '/', '>']) ++ r) true b hname
  have hfinish : (b.start tag name [] (b.scope.declare [])).finish =
      b.addChild (.mk name [] "" []) :=
    Builder.finish_within (e := ⟨tag, name, [], [], [], b.scope⟩) hb rfl b.scope
  rw [← hfinish]
  refine .of_steps hpiece (by simp) (.start r hopen) fun hroot => ?_
  rw [hfinish] at hroot
  exact Builder.depth_addChild_ne_zero hb _ hroot.2

/-- What stands before the end tag of an element that lies in another one. -/
theorem Passes.finish (expand : Expansion) {e : OpenElement}
    (htag : NameClass.plain.IsQualified e.writtenName) (he : e.outerScope = b.scope)
    (hb : b.opened ≠ []) (r : Source) :
    Passes expand (b.within e s) (glyphs ('<' :: '/' :: e.writtenName ++ ['>']) ++ r)
      (b.addChild e.close) r := by
  have hpiece := nextPiece_endTag htag r
  have hclose := closeElement_within (glyphs ('<' :: '/' :: e.writtenName ++ ['>']) ++ r) b e s
  rw [Builder.finish_within hb he] at hclose
  exact .of_steps hpiece (by simp) (.finish r hclose) fun hroot =>
    Builder.depth_addChild_ne_zero hb _ hroot.2

end ContractDrift.Xml
