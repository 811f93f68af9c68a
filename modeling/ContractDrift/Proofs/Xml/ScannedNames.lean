/-
Names that are found in start tags.

Whatever text a start tag is scanned from, its own name and those of its attributes are names with
at most one prefix (`isQualified_of_nextPiece`).  Two attributes that declare one prefix therefore
have one name (`eq_of_declaredPrefix?`).
-/
import ContractDrift.Proofs.Outcome
import ContractDrift.Proofs.Text.Split
import ContractDrift.Proofs.Xml.Names
import ContractDrift.Xml.Namespace

namespace ContractDrift.Xml

variable {k : NameClass} {c : Char} {acc acc' n m : List Char} {gs r : Source}

theorem starts_of_scanNameStart (h : scanNameStart k gs = .ok (c, r)) : k.starts c = true := by
  unfold scanNameStart at h
  split at h
  · cases h
  · cases h
  · cases h
  · split at h
    · rename_i hstarts
      cases h
      exact hstarts
    · cases h

theorem continues_of_scanNameRest (h : scanNameRest k acc gs = .ok (acc', r)) :
    ∃ cs : List Char, acc' = cs.reverse ++ acc ∧ ∀ x ∈ cs, k.continues x = true := by
  induction gs generalizing acc with
  | nil => cases h
  | cons g gs ih =>
    cases g with
    | bad => cases h
    | cut => cases h
    | char c =>
      rw [scanNameRest] at h
      split at h
      · rename_i hc
        obtain ⟨cs, rfl, hcs⟩ := ih h
        refine ⟨c :: cs, by simp, fun x hx => ?_⟩
        rcases List.mem_cons.mp hx with rfl | hx
        · exact hc
        · exact hcs x hx
      · split at h
        · cases h
          exact ⟨[], rfl, fun _ hx => absurd hx List.not_mem_nil⟩
        · cases h

/-- A name that is scanned has at most one prefix, and neither part is empty. -/
theorem isQualified_of_scanQualifiedName (h : scanQualifiedName k gs = .ok (n, r)) :
    k.IsQualified n := by
  obtain ⟨⟨c, r₁⟩, hstart, h⟩ := bind_eq_ok_iff.mp h
  obtain ⟨⟨acc₁, r₂⟩, hrest, h⟩ := bind_eq_ok_iff.mp h
  have hc := starts_of_scanNameStart hstart
  obtain ⟨cs, rfl, hcs⟩ := continues_of_scanNameRest hrest
  have hfirst : k.isName (c :: cs) = true := NameClass.isName_iff.mpr ⟨c, cs, rfl, hc, hcs⟩
  simp only at h
  split at h
  · -- a colon follows, and behind it a second name
    obtain ⟨⟨d, r₃⟩, hstart', h⟩ := bind_eq_ok_iff.mp h
    obtain ⟨⟨acc₂, r₄⟩, hrest', h⟩ := bind_eq_ok_iff.mp h
    have hd := starts_of_scanNameStart hstart'
    obtain ⟨ds, rfl, hds⟩ := continues_of_scanNameRest hrest'
    have hsecond : k.isName (d :: ds) = true := NameClass.isName_iff.mpr ⟨d, ds, rfl, hd, hds⟩
    simp only at h
    split at h
    · cases h
    · cases h
      simpa using NameClass.IsQualified.prefixed hfirst hsecond
  · cases h
    simpa using NameClass.IsQualified.plain hfirst

theorem isQualified_of_scanAttribute {w : WrittenAttribute} (h : scanAttribute k gs = .ok (w, r)) :
    k.IsQualified w.name := by
  obtain ⟨⟨n, r₁⟩, hname, h⟩ := bind_eq_ok_iff.mp h
  simp only at h
  split at h
  · cases h
  · obtain ⟨⟨quote, r₂⟩, -, h⟩ := bind_eq_ok_iff.mp h
    obtain ⟨⟨value, r₃⟩, -, h⟩ := bind_eq_ok_iff.mp h
    cases h
    exact isQualified_of_scanQualifiedName hname
  · cases h

theorem isQualified_of_scanTagRest {fuel : Nat} {written : List WrittenAttribute} {tag : StartTag}
    (hwritten : ∀ w ∈ written, k.IsQualified w.name)
    (h : scanTagRest k n fuel written gs = .ok (tag, r)) :
    tag.name = n ∧ ∀ w ∈ tag.attributes, k.IsQualified w.name := by
  -- whichever way a tag ends, it has the attributes that were collected so far
  have hend {isEmpty : Bool} (htag : tag = ⟨n, written.reverse, isEmpty⟩) :
      tag.name = n ∧ ∀ w ∈ tag.attributes, k.IsQualified w.name := by
    rw [htag]
    exact ⟨rfl, fun w hw => hwritten w (List.mem_reverse.mp hw)⟩
  induction fuel generalizing written gs with
  | zero => cases h
  | succ fuel ih =>
    unfold scanTagRest at h
    split at h
    · cases h
    · cases h
      exact hend rfl
    · obtain ⟨_, -, h⟩ := bind_eq_ok_iff.mp h
      cases h
      exact hend rfl
    · split at h
      · split at h
        · cases h
        · cases h
          exact hend rfl
        · obtain ⟨_, -, h⟩ := bind_eq_ok_iff.mp h
          cases h
          exact hend rfl
        · obtain ⟨⟨w, r₁⟩, hattribute, h⟩ := bind_eq_ok_iff.mp h
          have hall : ∀ v ∈ w :: written, k.IsQualified v.name := by
            intro v hv
            rcases List.mem_cons.mp hv with rfl | hv
            · exact isQualified_of_scanAttribute hattribute
            · exact hwritten v hv
          refine ih hall h fun htag => ?_
          rw [htag]
          exact ⟨rfl, fun v hv => hall v (List.mem_reverse.mp hv)⟩
      · cases h

theorem isQualified_of_scanMarkup {tag : StartTag} (h : scanMarkup k gs = .ok (.start tag, r)) :
    k.IsQualified tag.name ∧ ∀ w ∈ tag.attributes, k.IsQualified w.name := by
  unfold scanMarkup at h
  split at h
  · cases h
  · obtain ⟨_, -, h⟩ := bind_eq_ok_iff.mp h
    cases h
  · obtain ⟨_, -, h⟩ := bind_eq_ok_iff.mp h
    cases h
  · cases h
  · obtain ⟨_, -, h⟩ := bind_eq_ok_iff.mp h
    cases h
  · obtain ⟨_, -, h⟩ := bind_eq_ok_iff.mp h
    cases h
  -- of all markup only the last kind is a start tag
  · obtain ⟨⟨tag', r'⟩, htag, h⟩ := bind_eq_ok_iff.mp h
    cases h
    obtain ⟨⟨n, r₁⟩, hname, hrest⟩ := bind_eq_ok_iff.mp htag
    obtain ⟨hn, hattributes⟩ :=
      isQualified_of_scanTagRest (fun _ hw => absurd hw List.not_mem_nil) hrest
    rw [hn]
    exact ⟨isQualified_of_scanQualifiedName hname, hattributes⟩

/-- The names in a start tag have at most one prefix each. -/
theorem isQualified_of_nextPiece {tag : StartTag} (h : nextPiece k gs = .piece (.start tag) r) :
    k.IsQualified tag.name ∧ ∀ w ∈ tag.attributes, k.IsQualified w.name := by
  unfold nextPiece at h
  split at h
  · cases h
  · split at h
    · rename_i hmarkup
      cases h
      exact isQualified_of_scanMarkup hmarkup
    · cases h
  -- every other piece is no tag
  all_goals first
    | cases h
    | split at h <;> cases h

/-- No name ends with the colon of its prefix. -/
theorem ne_of_isQualified (hn : k.IsQualified n) : n ≠ "xmlns:".toList := by
  rintro rfl
  generalize hword : "xmlns:".toList = word at hn
  cases hn with
  | plain hn =>
    rw [← hword] at hn
    exact NameClass.colon_not_mem_isName hn (by decide)
  | @prefixed p l hp hl =>
    have hsplit : Text.splitFirst ':' (p ++ ':' :: l) = some ("xmlns".toList, []) := by
      rw [← hword]
      rfl
    rw [Text.splitFirst_append (NameClass.colon_not_mem_isName hp)] at hsplit
    -- nothing stands behind the colon, but a local part is not empty
    obtain ⟨-, rfl⟩ := Prod.mk.inj (Option.some.inj hsplit)
    cases hl

/-- A prefix is declared by an attribute of one name only. -/
theorem eq_of_declaredPrefix? {pfx : List Char} (hn : k.IsQualified n) (hm : k.IsQualified m)
    (h : declaredPrefix? n = some pfx) (h' : declaredPrefix? m = some pfx) : n = m := by
  have hform {n : List Char} (hn : k.IsQualified n) (h : declaredPrefix? n = some pfx) :
      n = if pfx = [] then "xmlns".toList else "xmlns:".toList ++ pfx := by
    unfold declaredPrefix? at h
    split at h
    · rename_i hdefault
      cases h
      exact hdefault
    · have hpfx : n = "xmlns:".toList ++ pfx := Text.dropPrefix?_eq_some_iff.mp h
      rw [if_neg, hpfx]
      rintro rfl
      exact ne_of_isQualified hn (by simpa using hpfx)
  rw [hform hn h, hform hm h']

end ContractDrift.Xml
