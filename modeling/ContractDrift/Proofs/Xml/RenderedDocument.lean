/-
A rendered tree is read back.

The prefixes in use are collected over the names of a tree, one after the other
(`collectPrefixes_eq_foldlM`), and the root declares each of them once (`exists_declared`).
So `Document.read_render` asks of the names only that they are read in any scope that binds
these prefixes (`Scope.Binds`), whatever the order of the declarations.
-/
import Mathlib.Data.List.Nodup
import ContractDrift.Proofs.Xml.WrittenDocument

namespace ContractDrift.Xml

/-! ## The prefixes in use -/

mutual

theorem collectPrefixes_eq_foldlM (known : Prefixes) : (used : Prefixes) → (e : Element) →
    collectPrefixes known used e = e.names.foldlM (usePrefix known) used
  | used, .mk name a text children => by
    rw [collectPrefixes, Element.names, List.foldlM_cons]
    refine bind_congr fun used => ?_
    exact collectChildren_eq_foldlM known used children

theorem collectChildren_eq_foldlM (known : Prefixes) : (used : Prefixes) → (es : List Element) →
    collectChildren known used es = (Element.allNames es).foldlM (usePrefix known) used
  | used, [] => rfl
  | used, e :: es => by
    rw [collectChildren, Element.allNames, List.foldlM_append,
      collectPrefixes_eq_foldlM known used e]
    refine bind_congr fun used => ?_
    exact collectChildren_eq_foldlM known used es

end

/-- The declaration of a namespace with its prefix. -/
def Declared.ofPrefix (u : String × String) : Declared := ⟨u.2.toList, u.1.toList⟩

/-- The declarations in the root's tag are those of the prefixes in use, in some order. -/
theorem exists_declared (used : Prefixes) :
    ∃ ds : List Declared, ds.Perm (used.map Declared.ofPrefix) ∧
      (declarations used).toList = ds.flatMap Declared.written := by
  refine ⟨(used.mergeSort fun a b => Text.le a.2 b.2).map Declared.ofPrefix,
    (List.mergeSort_perm used _).map _, ?_⟩
  rw [declarations, String.toList_join, List.flatMap_map, List.flatMap_map]
  refine List.flatMap_congr fun u _ => ?_
  simp [Declared.ofPrefix, Declared.written, Declared.attributeName, escapeAttribute]

/-- A scope that binds the prefixes in use, and no others. -/
structure Scope.Binds (s : Scope) (used : Prefixes) : Prop where
  find?_used : ∀ u ∈ used, s.find? u.2.toList = some u.1.toList
  find?_other : ∀ p, p ∉ used.map (·.2.toList) → s.find? p = Scope.initial.find? p

theorem binds_declare {used : Prefixes} {ds : List Declared}
    (hds : ds.Perm (used.map Declared.ofPrefix)) (hnodup : (ds.map Declared.pfx).Nodup) :
    (Scope.initial.declare ds).Binds used := by
  refine ⟨fun u hu => ?_, fun p hp => ?_⟩
  · exact Scope.find?_declare hnodup Scope.initial (hds.symm.subset (List.mem_map_of_mem hu))
  · refine Scope.find?_declare_of_not_mem (fun h => hp ?_) Scope.initial
    have := (hds.map Declared.pfx).subset h
    rwa [List.map_map] at this

/-! ## Rendered trees -/

/-- A rendered tree is read back as it is laid out, also where blanks follow it. -/
theorem Document.read_render {known used : Prefixes} {root : Element}
    (hroot : root.text ≠ "" ∨ root.children ≠ [])
    (hused : collectPrefixes (known ++ wellKnownPrefixes) [] root = .ok used)
    (hvalid : ∀ u ∈ used, (Declared.ofPrefix u).Valid)
    (huris : ∀ u ∈ used, isXmlText u.1.toList = true)
    (hnodup : (used.map (·.2)).Nodup)
    (hnames : ∀ s : Scope, s.Binds used →
      ∀ n ∈ root.names, s.Reads (prefixedName (known ++ wellKnownPrefixes) used) n)
    (htexts : ∀ t ∈ root.texts, isXmlText t.toList = true) :
    ∃ body, render known root = .ok (documentHeader ++ body) ∧
      ∀ blanks : String, (∀ c ∈ blanks.toList, isSpace c = true) →
        Document.read (Text.utf8 (documentHeader ++ body ++ blanks)) = .ok (root.laidOut 0) := by
  obtain ⟨ds, hds, hextra⟩ := exists_declared used
  -- the declarations are sorted, which changes neither the prefixes nor what they stand for
  have hpfx : (ds.map Declared.pfx).Nodup := by
    have hperm := hds.map Declared.pfx
    have hmap : used.map (Declared.pfx ∘ Declared.ofPrefix) =
        (used.map (·.2)).map String.toList := by
      rw [List.map_map]
      rfl
    rw [hperm.nodup_iff, List.map_map, hmap]
    exact List.Nodup.map (fun a b => String.toList_inj.mp) hnodup
  have hmem {d : Declared} (hd : d ∈ ds) : ∃ u ∈ used, Declared.ofPrefix u = d :=
    List.mem_map.mp (hds.subset hd)
  have hdsValid : ∀ d ∈ ds, d.Valid := by
    intro d hd
    obtain ⟨u, hu, rfl⟩ := hmem hd
    exact hvalid u hu
  have hdsUris : ∀ d ∈ ds, isXmlText d.uri = true := by
    intro d hd
    obtain ⟨u, hu, rfl⟩ := hmem hd
    exact huris u hu
  refine ⟨_, ?_, fun blanks hblanks => Document.read_writeElement root hroot hdsValid hpfx
    (hnames _ (binds_declare hds hpfx)) hextra hdsUris htexts hblanks⟩
  simp only [render, hused]
  rfl

end ContractDrift.Xml
