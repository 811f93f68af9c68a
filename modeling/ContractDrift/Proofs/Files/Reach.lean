/-
Which files a reader reaches.

A written path that leads to the root of a reader or below it is reached (`IsReached`), and every
path below the root can be written in two ways, from the root of the tree on and from that of the
reader (`leadsTo_text`, `leadsTo_intercalate`).  So a reader reaches all its files, with one
exception: at the root of the tree it refuses everything but that root (`resolve_complete`).

Design notes: the exception is that of `isBelow_iff`.  What is reached may still not be looked up,
when its path is too long.
-/
import ContractDrift.Proofs.Files.Containment
import ContractDrift.Proofs.Files.Join
import ContractDrift.Proofs.Files.Listing

namespace ContractDrift.Files

variable {root rest : Path}

/-! ## Spellings -/

/-- Where names are written with slashes between them, one stands before each but the first. -/
theorem toList_intercalate {c : String} (rest : Path) :
    ("/".intercalate (c :: rest)).toList =
      c.toList ++ rest.flatMap fun d => '/' :: d.toList := by
  have htext := toList_text (List.cons_ne_nil c rest)
  rw [Path.text, String.toList_append, List.flatMap_cons, List.cons_append] at htext
  exact (List.cons.inj htext).2

theorem isAbsolute_intercalate (h : rest.IsCanonical) :
    isAbsolute ("/".intercalate rest) = false := by
  cases rest with
  | nil => rfl
  | cons c rest =>
    have hc := h c List.mem_cons_self
    rw [isAbsolute, toList_intercalate]
    cases hchars : c.toList with
    | nil => exact absurd (String.toList_eq_nil_iff.mp hchars) hc.ne_empty
    | cons d ds =>
      have hd : d ≠ '/' := fun h => hc.no_slash (by rw [hchars, h]; exact List.mem_cons_self)
      simpa using hd

theorem no_null_intercalate (h : rest.IsCanonical) :
    '\x00' ∉ ("/".intercalate rest).toList := by
  have htext := no_null_text h.isWritten
  rw [Path.text, String.toList_append, List.mem_append, not_or] at htext
  exact htext.2

/-- A path is written from the root of the tree on. -/
theorem leadsTo_text (hroot : root.IsCanonical) (hrest : rest.IsCanonical) :
    LeadsTo root (Path.text (root ++ rest)) (root ++ rest) := by
  have hcanonical : Path.IsCanonical (root ++ rest) := hroot.append hrest
  rw [leadsTo_iff hroot, resolve_text hcanonical.isWritten,
    normalize_of_not_mem hcanonical.not_mem_back]

/-- What lies below a root is written from there on. -/
theorem leadsTo_intercalate (hroot : root.IsCanonical) (hrest : rest.IsCanonical) :
    LeadsTo root ("/".intercalate rest) (root ++ rest) := by
  have hparts : ∀ s ∈ rest, IsPart s := fun s hs => (hrest s hs).isPart
  rw [leadsTo_iff hroot, Files.resolve, isAbsolute_intercalate hrest,
    if_neg (by decide), components_intercalate hparts,
    normalize_of_not_mem (hroot.append hrest).not_mem_back]

namespace Reader

variable {r : Reader} {written : String} {p : Path}

/-! ## Reached and refused -/

/-- A written path is answered with where it leads; a file there is found and read, unless its path
is too long to be looked up. -/
structure IsReached (r : Reader) (written : String) (p : Path) : Prop where
  resolve : r.resolve written = .ok p
  file : ∀ content, r.tree.file? p = some content → r.tree.isTooLong p = false →
    r.exists? written = .ok true ∧ r.read written = .ok content
  tooLong : r.tree.isTooLong p = true →
    r.exists? written = .error (.nameTooLong p) ∧ r.read written = .error (.nameTooLong p)

/-- A written path is refused as one that leads outside, whatever is there. -/
structure IsRefused (r : Reader) (written : String) : Prop where
  resolve : r.resolve written = .error (.escapes written r.root)
  exists_eq : r.exists? written = .ok false
  read : r.read written = .error (.escapes written r.root)

theorem isReached_of_resolve (h : r.resolve written = .ok p) : IsReached r written p := by
  refine ⟨h, fun content hfile hshort => ⟨?_, read_of_file h hshort hfile⟩, fun hlong => ⟨?_, ?_⟩⟩
  · rw [exists?_of_resolve h, if_neg (by simp [hshort]), Tree.isFile, hfile]
    rfl
  · rw [exists?_of_resolve h, if_pos hlong]
  · rw [read_eq, h]
    exact if_pos hlong

theorem isRefused_of_resolve (h : r.resolve written = .error (.escapes written r.root)) :
    IsRefused r written := by
  refine ⟨h, exists?_of_resolve_error h, ?_⟩
  rw [read_eq, h]
  rfl

/-- What a reader reaches.  A written path that leads to the root or below is reached, unless the
root is that of the tree and the path leads below it: that is refused.  Every path of names below
the root is written in at least two ways, in full and from the root on. -/
theorem resolve_complete {tree : Tree} {place : Path} {root : String}
    (hplace : place.IsCanonical) (hopen : open? tree place root = .ok r) :
    (∀ written p, '\x00' ∉ written.toList → LeadsTo r.root written p →
      p = r.root ∨ p.IsBelow r.root →
        (r.root ≠ [] ∨ p = [] → IsReached r written p) ∧
        (r.root = [] → p ≠ [] → IsRefused r written)) ∧
    ∀ rest, Path.IsCanonical rest →
      ∀ written ∈ [Path.text (r.root ++ rest), "/".intercalate rest],
        '\x00' ∉ written.toList ∧ LeadsTo r.root written (r.root ++ rest) := by
  have hroot : r.root.IsCanonical := isCanonical_root hplace hopen
  refine ⟨fun written p hnull hleads hinside => ⟨fun h => ?_, fun hnil hp => ?_⟩,
    fun rest hrest => ?_⟩
  -- at the root of the tree nothing but itself is left to be reached
  · have hkept : p = r.root ∨ r.root ≠ [] ∧ p.IsBelow r.root := by
      rcases h with hne | rfl
      · exact hinside.imp_right fun hbelow => ⟨hne, hbelow⟩
      · rcases hinside with heq | ⟨below, hbelow, heq⟩
        · exact .inl heq
        · exact absurd (List.append_eq_nil_iff.mp heq.symm).2 hbelow
    exact isReached_of_resolve ((resolve_eq_ok_iff hroot).mpr ⟨hnull, hleads, hkept⟩)
  · -- an answer would be the path itself, which is neither the root nor, for a reader, below it
    refine isRefused_of_resolve (resolve_eq_escapes hnull fun q hq => ?_)
    obtain ⟨-, hleads', hkept⟩ := (resolve_eq_ok_iff hroot).mp hq
    obtain rfl : p = q :=
      ((leadsTo_iff hroot _).mp hleads).trans ((leadsTo_iff hroot _).mp hleads').symm
    rcases hkept with heq | ⟨hne, -⟩
    · exact hp (heq.trans hnil)
    · exact hne hnil
  · rw [List.forall_mem_cons, List.forall_mem_singleton]
    exact ⟨⟨no_null_text (hroot.append hrest).isWritten, leadsTo_text hroot hrest⟩,
      ⟨no_null_intercalate hrest, leadsTo_intercalate hroot hrest⟩⟩

/-- At the root of the tree a file is refused in both spellings, and below another root it is
reached in both. -/
theorem resolve_complete_atRoot :
    let tree : Tree := ⟨[(["srv", "a.txt"], .file [120])]⟩
    open? tree ["srv"] "/" = .ok ⟨tree, []⟩ ∧ open? tree ["srv"] "." = .ok ⟨tree, ["srv"]⟩ ∧
      (∀ written ∈ ["/srv/a.txt", "srv/a.txt"], IsRefused ⟨tree, []⟩ written) ∧
      ∀ written ∈ ["/srv/a.txt", "a.txt"],
        IsReached ⟨tree, ["srv"]⟩ written ["srv", "a.txt"] := by
  intro tree
  have hplace : Path.IsCanonical ["srv"] := by decide
  have hatTop : open? tree ["srv"] "/" = .ok ⟨tree, []⟩ := rfl
  have hatPlace : open? tree ["srv"] "." = .ok ⟨tree, ["srv"]⟩ := rfl
  refine ⟨hatTop, hatPlace, fun written hwritten => ?_, fun written hwritten => ?_⟩
  · obtain ⟨hdecided, hspelled⟩ := resolve_complete hplace hatTop
    obtain ⟨hnull, hleads⟩ := hspelled ["srv", "a.txt"] (by decide) written hwritten
    exact (hdecided written _ hnull hleads (.inr ⟨_, by decide, rfl⟩)).2 rfl (by decide)
  · obtain ⟨hdecided, hspelled⟩ := resolve_complete hplace hatPlace
    obtain ⟨hnull, hleads⟩ := hspelled ["a.txt"] (by decide) written hwritten
    exact (hdecided written _ hnull hleads (.inr ⟨_, by decide, rfl⟩)).1 (.inl (by decide))

end Reader

end ContractDrift.Files
