/-
Walking over a document piece by piece.

`Steps` says what a walk makes of one piece.  A step decides how the walk goes on
(`walk_of_steps`), and a walk that succeeds takes such a step for each piece
(`exists_steps_of_walk`), up to the tag that completes the root or to the end of its text
(`exists_data_of_walk`).

`Passes` says that the walk over a document comes from one state to another: from a builder and
what is left of the document to those of a later moment, whatever fuel is left then.  A step is
such a passage (`Passes.of_steps`), and passages compose (`Passes.trans`).  The documents there
declare nothing in front of their root (`documentContext`), so that only the five predefined
entities can be referred to.
-/
import ContractDrift.Proofs.Outcome
import ContractDrift.Proofs.Xml.Names
import ContractDrift.Xml.Content

namespace ContractDrift.Xml

/-- How the text of an entity is walked over. -/
abbrev Expansion := TextContext → List Char → Builder → Except Failure Builder

variable {expand : Expansion} {t : TextContext} {b b' b'' c : Builder}
variable {token gs gs' gs'' rest : Source}

/-! ## Steps of a walk -/

theorem stop_ne_ok {α : Type} {s : Stop} {x : α} : t.stop token s ≠ .ok x := by
  cases s <;> exact fun h => by cases h

theorem eq_finish_of_closeElement {name : List Char} (h : closeElement t token name b = .ok b') :
    b' = b.finish := by
  unfold closeElement at h
  split at h
  · cases h
  · split at h
    · cases h
    · split at h
      · cases h
        rfl
      · cases h

theorem Builder.data_nil (b : Builder) : b.data [] = b := by
  obtain ⟨opened, scope, root⟩ := b
  cases opened with
  | nil => rfl
  | cons e r => simp [Builder.data]

theorem Builder.data_data (b : Builder) (x y : List Char) :
    (b.data x).data y = b.data (x ++ y) := by
  obtain ⟨opened, scope, root⟩ := b
  cases opened with
  | nil => rfl
  | cons e r =>
    by_cases h : e.children = [] <;> simp [Builder.data, h]

/-- Whether a piece is a tag, behind which the root may be complete. -/
def Piece.isTag : Piece → Bool
  | .start _ => true
  | .finish _ => true
  | _ => false

/-- What a walk makes of a piece: from a builder, and what is left behind the piece, it comes to
those that it goes on with. -/
inductive Steps (expand : Expansion) (t : TextContext) (token : Source) (b : Builder) :
    Piece → Source → Builder → Source → Prop
  | data (cs : List Char) (r : Source) : Steps expand t token b (.data cs) r (b.data cs) r
  | comment (r : Source) : Steps expand t token b .comment r b r
  | instruction (r : Source) : Steps expand t token b (.instruction .other) r b r
  | sectionStart {b' : Builder} {r r' : Source} :
      walkSection t (r.length + 1) b r = .ok (b', r') → Steps expand t token b .sectionStart r b' r'
  | start {tag : StartTag} {b' : Builder} (r : Source) : openElement t token tag b = .ok b' →
      Steps expand t token b (.start tag) r (if tag.isEmpty then b'.finish else b') r
  | finish {name : List Char} {b' : Builder} (r : Source) : closeElement t token name b = .ok b' →
      Steps expand t token b (.finish name) r b' r
  | character {number : Nat} {x : Char} (r : Source) : characterOf? number = some x →
      Steps expand t token b (.reference (.character number)) r (b.data [x]) r
  | predefined {name : List Char} {x : Char} (r : Source) : predefined? name = some x →
      Steps expand t token b (.reference (.entity name)) r (b.data [x]) r
  | internal {name text : List Char} {b' : Builder} (r : Source) : predefined? name = none →
      t.definitions.entity? name = some (.internal text) → t.opened.contains name = false →
        expand (entityContext t token name b) text b = .ok b' →
          Steps expand t token b (.reference (.entity name)) r b' r

/-- Only a section of character data takes more than its piece. -/
theorem Steps.rest_eq {p : Piece} {r r' : Source} (h : Steps expand t token b p r b' r')
    (hp : p ≠ .sectionStart) : r' = r := by
  cases h with
  | sectionStart => exact absurd rfl hp
  | _ => rfl

/-- A step decides how the walk goes on: behind the tag that completes the root it ends, and
everywhere else it takes what the step leaves. -/
theorem walk_of_steps {p : Piece} {r r' : Source} (hpiece : nextPiece t.names gs = .piece p r)
    (h : Steps expand t gs b p r b' r') (n : Nat) :
    walk expand t (n + 1) b gs =
      if p.isTag = true ∧ b'.depth = 0 then .ok (b', r') else walk expand t n b' r' := by
  rw [walk, hpiece]
  cases h with
  | data | comment | instruction => rfl
  | sectionStart hsection =>
    simp only [hsection, bind, Except.bind]
    rfl
  | start _ hopen =>
    simp only [hopen, bind, Except.bind, Piece.isTag, true_and]
  | finish _ hclose =>
    simp only [hclose, bind, Except.bind, Piece.isTag, true_and]
  | character _ hx | predefined _ hx =>
    simp only [hx]
    rfl
  | internal _ hnone hentity hopened hinside =>
    simp only [hnone, hentity, hopened, Bool.false_eq_true, if_false, hinside, bind, Except.bind]
    rfl

/-- A walk that succeeds takes a step for its next piece, and goes on unless this has completed
the root. -/
theorem exists_steps_of_walk {n : Nat} {p : Piece} {r : Source}
    (hpiece : nextPiece t.names gs = .piece p r)
    (h : walk expand t (n + 1) b gs = .ok (c, rest)) :
    ∃ b' r', Steps expand t gs b p r b' r' ∧
      (if p.isTag = true ∧ b'.depth = 0 then .ok (b', r') else walk expand t n b' r') =
        .ok (c, rest) := by
  rw [walk, hpiece] at h
  -- one step for each kind of piece; what has no step is refused
  cases p with
  | data cs => exact ⟨_, _, .data cs r, h⟩
  | comment => exact ⟨_, _, .comment r, h⟩
  | instruction kind =>
    cases kind with
    | declaration => cases h
    | other => exact ⟨_, _, .instruction r, h⟩
  | sectionStart =>
    obtain ⟨⟨b', r'⟩, hsection, h⟩ := bind_eq_ok_iff.mp h
    exact ⟨_, _, .sectionStart hsection, h⟩
  | start tag =>
    obtain ⟨b', hopen, h⟩ := bind_eq_ok_iff.mp h
    simp only [Piece.isTag, true_and]
    exact ⟨_, _, .start r hopen, h⟩
  | finish name =>
    obtain ⟨b', hclose, h⟩ := bind_eq_ok_iff.mp h
    simp only [Piece.isTag, true_and]
    exact ⟨_, _, .finish r hclose, h⟩
  | reference ref =>
    cases ref with
    | character number =>
      cases hx : characterOf? number with
      | none =>
        simp only [hx] at h
        cases h
      | some x =>
        simp only [hx] at h
        exact ⟨_, _, .character r hx, h⟩
    | entity name =>
      cases hx : predefined? name with
      | some x =>
        simp only [hx] at h
        exact ⟨_, _, .predefined r hx, h⟩
      | none =>
        simp only [hx] at h
        split at h
        · split at h <;> cases h
        · rename_i hentity
          split at h
          · cases h
          · rename_i hopened
            split at h
            · cases h
            · cases h
            · obtain ⟨b', hinside, h⟩ := bind_eq_ok_iff.mp h
              exact ⟨_, _, .internal r hx hentity (Bool.eq_false_iff.mpr hopened) hinside, h⟩

/-- The characters that are left of a text where it has no next piece. -/
def lastChars? (gs : Source) : PieceStep → Option (List Char)
  | .finished => some []
  | .lastReturn => some ['\n']
  | .lastBracket => some (chars gs)
  | .stopped _ => none
  | .piece _ _ => none

/-- Where there is no next piece, a walk that succeeds ends with the characters that are left. -/
theorem exists_data_of_walk {n : Nat} (hnone : ∀ p r, nextPiece t.names gs ≠ .piece p r)
    (h : walk expand t (n + 1) b gs = .ok (c, rest)) :
    ∃ cs, lastChars? gs (nextPiece t.names gs) = some cs ∧ c = b.data cs := by
  -- a text may end only inside an entity, at the depth at which this began
  have hend {b' : Builder} {outer inside : Failure}
      (h : (if t.isOuter = true then .error outer
        else if b.depth = t.floor then .ok (b', []) else .error inside) =
          Except.ok (c, rest)) : c = b' := by
    split at h
    · cases h
    · split at h
      · cases h
        rfl
      · cases h
  rw [walk] at h
  cases hnext : nextPiece t.names gs with
  | piece p r => exact absurd hnext (hnone p r)
  | stopped s =>
    simp only [hnext] at h
    exact absurd h stop_ne_ok
  | finished =>
    simp only [hnext] at h
    exact ⟨[], rfl, by rw [Builder.data_nil, hend h]⟩
  | lastReturn =>
    simp only [hnext] at h
    exact ⟨_, rfl, hend h⟩
  | lastBracket =>
    simp only [hnext] at h
    exact ⟨_, rfl, hend h⟩

/-! ## Walks over a document -/

/-- The document itself, where nothing is declared. -/
def documentContext : TextContext := ⟨.plain, Definitions.empty, none, [], 0⟩

/-- The walk over a document comes from one builder and rest to another, with at most one
piece for each glyph. -/
def Passes (expand : Expansion) (b : Builder) (gs : Source) (b' : Builder) (gs' : Source) : Prop :=
  ∃ k, k + gs'.length ≤ gs.length ∧
    ∀ n, walk expand documentContext (n + k) b gs = walk expand documentContext n b' gs'

theorem Passes.refl (b : Builder) (gs : Source) : Passes expand b gs b gs :=
  ⟨0, by omega, fun _ => rfl⟩

theorem Passes.trans (h : Passes expand b gs b' gs') (h' : Passes expand b' gs' b'' gs'') :
    Passes expand b gs b'' gs'' := by
  obtain ⟨k, hk, hwalk⟩ := h
  obtain ⟨k', hk', hwalk'⟩ := h'
  refine ⟨k' + k, by omega, fun n => ?_⟩
  rw [← Nat.add_assoc, hwalk, hwalk']

/-- A step takes the walk on, if it does not complete the root. -/
theorem Passes.of_steps {p : Piece} {w : List Char}
    (hpiece : nextPiece .plain (glyphs w ++ gs) = .piece p gs) (hne : w ≠ [])
    (h : Steps expand documentContext (glyphs w ++ gs) b p gs b' gs)
    (hroot : ¬ (p.isTag = true ∧ b'.depth = 0)) : Passes expand b (glyphs w ++ gs) b' gs := by
  have hlength := List.length_pos_iff.mpr hne
  refine ⟨1, ?_, fun n => ?_⟩
  · rw [List.length_append, length_glyphs]
    omega
  · rw [walk_of_steps (t := documentContext) hpiece h, if_neg hroot]

theorem Passes.data {w cs : List Char} (hne : w ≠ [])
    (h : nextPiece .plain (glyphs w ++ gs) = .piece (.data cs) gs) :
    Passes expand b (glyphs w ++ gs) (b.data cs) gs :=
  .of_steps h hne (.data cs gs) (by simp [Piece.isTag])

theorem Passes.predefined {w name : List Char} {c : Char} (hne : w ≠ [])
    (h : nextPiece .plain (glyphs w ++ gs) = .piece (.reference (.entity name)) gs)
    (hc : predefined? name = some c) :
    Passes expand b (glyphs w ++ gs) (b.data [c]) gs :=
  .of_steps h hne (.predefined gs hc) (by simp [Piece.isTag])

end ContractDrift.Xml
