/-
Paths written inside other paths.

The shortest spelling of a path has its components (`components_tidy`), and a relative path that
is written inside another has the components of both, in order (`components_join`).  So a name in
a directory is located at a path that ends in the name (`getLast?_of_locate_join`).
-/
import ContractDrift.Proofs.Files.Writing

namespace ContractDrift.Files

variable {outer inner name : String}

/-! ## Components -/

/-- A text that stays as it is when a path is divided. -/
def IsPart (s : String) : Prop := s ≠ "" ∧ s ≠ "." ∧ '/' ∉ s.toList

theorem IsName.isPart {s : String} (h : IsName s) : IsPart s :=
  ⟨h.ne_empty, h.ne_here, h.no_slash⟩

theorem isPart_of_mem_components {s : String} (h : s ∈ components inner) : IsPart s := by
  rw [components, List.mem_filter, Bool.and_eq_true, bne_iff_ne, bne_iff_ne] at h
  obtain ⟨hmem, hne, hhere⟩ := h
  obtain ⟨cs, hcs, rfl⟩ := List.mem_map.mp hmem
  exact ⟨hne, hhere, by simpa using Text.not_mem_splitAll hcs⟩

theorem components_append_slash (a b : String) :
    components (a ++ "/" ++ b) = components a ++ components b := by
  have hlist : (a ++ "/" ++ b).toList = a.toList ++ '/' :: b.toList := by simp
  rw [components, hlist, Text.splitAll_append_sep, List.map_append, List.filter_append]
  rfl

theorem components_slash (b : String) : components ("/" ++ b) = components b :=
  components_append_slash "" b

theorem components_concat_slash (a : String) : components (a ++ "/") = components a := by
  have h := components_append_slash a ""
  rwa [String.append_empty, show components "" = [] from rfl, List.append_nil] at h

theorem components_intercalate {parts : List String} (h : ∀ s ∈ parts, IsPart s) :
    components ("/".intercalate parts) = parts := by
  cases hparts : parts with
  | nil => rfl
  | cons p ps =>
    rw [← hparts]
    have hareParts : AreParts ("/".intercalate parts) parts :=
      ⟨rfl, hparts ▸ List.cons_ne_nil p ps, fun s hs => (h s hs).2.2⟩
    rw [components, ← areParts_iff.mp hareParts]
    refine List.filter_eq_self.mpr fun s hs => ?_
    simp [(h s hs).1, (h s hs).2.1]

/-- The shortest spelling of a path has the components of the path. -/
theorem components_tidy (written : String) : components (tidy written) = components written := by
  have hbody : components ("/".intercalate (components written)) = components written :=
    components_intercalate fun _ => isPart_of_mem_components
  unfold tidy
  dsimp only
  split
  · rw [components_slash, hbody]
  · rw [show ("//" : String) = "/" ++ "/" from rfl, String.append_assoc, components_slash,
      components_slash, hbody]
  · rw [components_slash, hbody]
  · split
    · rename_i hempty
      rw [hempty] at hbody
      exact hbody
    · exact hbody

/-- A relative path inside another has the components of both. -/
theorem components_join (h : isAbsolute inner = false) (outer : String) :
    components (join outer inner) = components outer ++ components inner := by
  have hinner := components_tidy inner
  have houter := components_tidy outer
  unfold join
  rw [if_neg (by simp [h])]
  split
  · rename_i hnone
    rw [houter, hnone, List.append_nil]
  · dsimp only
    split
    · rename_i hhere
      rw [hhere] at houter
      rw [hinner, ← houter]
      rfl
    · split
      · rename_i hslash
        obtain ⟨front, hfront⟩ := Text.endsWith_iff.mp hslash
        have hcut : tidy outer = String.ofList front ++ "/" := by
          rw [← String.toList_inj, ← hfront]
          simp
        rw [← hinner, ← houter, hcut, components_append_slash, components_concat_slash]
      · rw [components_append_slash, houter, hinner]

/-! ## Names in a directory -/

/-- A walk whose last step is a name ends there. -/
theorem exists_of_walk_concat {t : Tree} (hname : name ≠ "..") {cs : List String}
    {start p : Path} (h : t.walk start (cs ++ [name]) = .ok p) :
    ∃ directory, p = directory ++ [name] := by
  induction cs generalizing start with
  | nil =>
    obtain ⟨-, -, hlast⟩ := Tree.walk_cons_eq_ok_iff.mp h
    rw [if_neg hname, Tree.walk, Except.ok.injEq] at hlast
    exact ⟨start, hlast.symm⟩
  | cons c cs ih =>
    obtain ⟨-, -, hrest⟩ := Tree.walk_cons_eq_ok_iff.mp h
    exact ih hrest

/-- What a directory has under a name is located at a path that ends in the name. -/
theorem getLast?_of_locate_join {t : Tree} {place p : Path} {directory : String}
    (hname : IsName name) (h : t.locate place (join directory name) = .ok p) :
    p.getLast? = some name := by
  have hrelative : isAbsolute name = false := by
    have hhead : name.toList.head? ≠ some '/' :=
      fun hslash => hname.no_slash (List.mem_of_mem_head? hslash)
    simpa [isAbsolute] using hhead
  have hcomponents : components name = [name] := by
    have hsingle := components_intercalate (List.forall_mem_singleton.mpr hname.isPart)
    rwa [String.intercalate_singleton] at hsingle
  obtain ⟨-, -, hwalk⟩ := Tree.locate_eq_ok_iff.mp h
  rw [components_join hrelative, hcomponents] at hwalk
  obtain ⟨front, rfl⟩ := exists_of_walk_concat hname.ne_back hwalk
  exact List.getLast?_concat

end ContractDrift.Files
