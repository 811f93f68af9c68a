/-
What is listed.

The paths of a list keep the steps back of the pattern.  Below the directory that is listed
they have parts that fit the components of the pattern (`Fits`), so how far they can lead back
shows in the pattern alone: it is `climb`.

* `fits_of_mem_selectFrom`: what a search finds fits the pattern;
* `exists_normalize_eq_append`: where the pattern does not climb above the root, nothing that
  fits it leads outside;
* `Reader.list_contained`: every listed path leads to a file, and is served as such if it stays
  inside the root; with a pattern that does not climb above the root all of them do.

Design notes: a list checks its directory against the root, and never what it has found there.
A pattern that climbs further than the directory lies below the root lists files that cannot be
read by their paths.
-/
import Mathlib.Data.List.Nodup
import ContractDrift.Proofs.Files.Containment
import ContractDrift.Proofs.Text.Order

namespace ContractDrift.Files

open ContractDrift.Text (Octets)

variable {t : Tree} {p q : Path}

/-! ## Trees of names -/

/-- A tree whose entries have names only in their paths. -/
def Tree.IsCanonical (t : Tree) : Prop := ∀ e ∈ t.entries, Path.IsCanonical e.1

instance (t : Tree) : Decidable t.IsCanonical :=
  inferInstanceAs (Decidable (∀ e ∈ t.entries, Path.IsCanonical e.1))

theorem Path.IsCanonical.nil : Path.IsCanonical [] := fun _ hc => absurd hc List.not_mem_nil

theorem Path.IsCanonical.append {p q : Path} (hp : p.IsCanonical) (hq : q.IsCanonical) :
    Path.IsCanonical (p ++ q) := by
  intro c hc
  rcases List.mem_append.mp hc with hc | hc
  · exact hp c hc
  · exact hq c hc

theorem Tree.mem_entries_of_lookup {e : Entry} (h : t.entries.lookup p = some e) :
    (p, e) ∈ t.entries := by
  obtain ⟨before, after, hentries, -⟩ := List.lookup_eq_some_iff.mp h
  rw [hentries]
  exact List.mem_append_right before List.mem_cons_self

/-- A file is an entry; what only leads to an entry is a directory. -/
theorem Tree.mem_entries_of_file? {content : Octets} (h : t.file? p = some content) :
    (p, .file content) ∈ t.entries := by
  have hentry : t.entry? p = some (.file content) := by
    unfold Tree.file? at h
    split at h
    · rename_i found hfound
      rw [hfound, Option.some.inj h]
    · cases h
  unfold Tree.entry? at hentry
  split at hentry
  · rename_i e hlookup
    obtain rfl := Option.some.inj hentry
    exact Tree.mem_entries_of_lookup hlookup
  · split at hentry <;> cases hentry

/-- What stands in a tree of names is found by names. -/
theorem Tree.IsCanonical.of_entry? (h : t.IsCanonical) {e : Entry} (he : t.entry? p = some e) :
    p.IsCanonical := by
  unfold Tree.entry? at he
  split at he
  · rename_i e' hlookup
    exact h (p, e') (Tree.mem_entries_of_lookup hlookup)
  · split at he
    · rename_i habove
      rcases Bool.or_eq_true_iff.mp habove with hroot | hleads
      · obtain rfl := List.isEmpty_iff.mp hroot
        exact Path.IsCanonical.nil
      · obtain ⟨entry, hentry, hprefix⟩ := List.any_eq_true.mp hleads
        have hp : p <+: entry.1 := List.isPrefixOf_iff_prefix.mp hprefix
        exact fun c hc => h entry hentry c (hp.subset hc)
    · cases he

theorem Tree.isSome_entry?_of_isDirectory (h : t.isDirectory p = true) :
    (t.entry? p).isSome = true := by
  rw [beq_iff_eq.mp h]
  rfl

/-- The names found so far, with the one that follows `p` in the path of an entry. -/
def addNameAfter (p : Path) (names : List String) (e : Path × Entry) : List String :=
  match e.1.drop p.length with
  | name :: _ => if p.isPrefixOf e.1 && !names.contains name then names ++ [name] else names
  | [] => names

theorem Tree.names_eq (t : Tree) (p : Path) : t.names p = t.entries.foldl (addNameAfter p) [] :=
  rfl

theorem addNameAfter_append (p : Path) (names : List String) (name : String) (rest : Path)
    (e : Entry) : addNameAfter p names (p ++ name :: rest, e) =
      if name ∈ names then names else names ++ [name] := by
  have hprefix : p.isPrefixOf (p ++ name :: rest) = true :=
    List.isPrefixOf_iff_prefix.mpr (List.prefix_append _ _)
  by_cases hmem : name ∈ names
  · simp [addNameAfter, hmem]
  · simp [addNameAfter, hprefix, hmem]

/-- An entry adds a name, or none where its path does not go on from there. -/
theorem addNameAfter_cases (p : Path) (names : List String) (e : Path × Entry) :
    (∃ name rest, e.1 = p ++ name :: rest) ∨
      addNameAfter p names e = names ∧ ∀ name rest, e.1 ≠ p ++ name :: rest := by
  by_cases h : ∃ name rest, e.1 = p ++ name :: rest
  · exact .inl h
  · refine .inr ⟨?_, fun name rest he => h ⟨name, rest, he⟩⟩
    unfold addNameAfter
    split
    · rename_i name rest hdrop
      split
      · -- the path goes on with the name after all
        rename_i hnew
        have hprefix : p <+: e.1 :=
          List.isPrefixOf_iff_prefix.mp (Bool.and_eq_true_iff.mp hnew).1
        obtain ⟨tail, htail⟩ := hprefix
        rw [← htail, List.drop_left] at hdrop
        exact absurd ⟨name, rest, hdrop ▸ htail.symm⟩ h
      · rfl
    · rfl

theorem mem_addNameAfter {names : List String} {e : Path × Entry} {name : String} :
    name ∈ addNameAfter p names e ↔ name ∈ names ∨ ∃ rest, e.1 = p ++ name :: rest := by
  rcases addNameAfter_cases p names e with ⟨found, rest, he⟩ | ⟨hsame, hnone⟩
  · obtain ⟨path, entry⟩ := e
    subst he
    have hfollows : (∃ rest', p ++ found :: rest = p ++ name :: rest') ↔ name = found := by
      simp [eq_comm]
    rw [addNameAfter_append, hfollows]
    split
    · rename_i hmem
      exact ⟨.inl, fun h => h.elim id fun heq => heq ▸ hmem⟩
    · simp
  · rw [hsame]
    exact ⟨.inl, fun h => h.elim id fun ⟨rest, he⟩ => absurd he (hnone name rest)⟩

theorem nodup_addNameAfter {names : List String} (h : names.Nodup) (e : Path × Entry) :
    (addNameAfter p names e).Nodup := by
  rcases addNameAfter_cases p names e with ⟨found, rest, he⟩ | ⟨hsame, -⟩
  · obtain ⟨path, entry⟩ := e
    subst he
    rw [addNameAfter_append]
    split
    · exact h
    · rename_i hnew
      refine List.nodup_append.mpr ⟨h, List.nodup_singleton found, ?_⟩
      rintro name hname _ hother rfl
      exact hnew (List.mem_singleton.mp hother ▸ hname)
  · rwa [hsame]

/-- The names of a directory are those that follow its path in the entries. -/
theorem Tree.mem_names_iff {name : String} :
    name ∈ t.names p ↔ ∃ e ∈ t.entries, ∃ rest, e.1 = p ++ name :: rest := by
  have key (entries : List (Path × Entry)) (names : List String) :
      name ∈ entries.foldl (addNameAfter p) names ↔
        name ∈ names ∨ ∃ e ∈ entries, ∃ rest, e.1 = p ++ name :: rest := by
    induction entries generalizing names with
    | nil => simp
    | cons e entries ih =>
      rw [List.foldl_cons, ih, mem_addNameAfter, List.exists_mem_cons_iff, or_assoc]
  rw [Tree.names_eq, key]
  -- no name is there at first
  simp

theorem Tree.nodup_names (t : Tree) (p : Path) : (t.names p).Nodup :=
  List.foldlRecOn (motive := List.Nodup) _ _ List.nodup_nil fun _ h e _ => nodup_addNameAfter h e

theorem Tree.IsCanonical.of_mem_names (h : t.IsCanonical) {name : String}
    (hname : name ∈ t.names p) : IsName name := by
  obtain ⟨e, he, rest, hpath⟩ := Tree.mem_names_iff.mp hname
  exact h e he name (hpath ▸ List.mem_append_right p List.mem_cons_self)

/-- A file has its name in its directory. -/
theorem Tree.mem_names_of_file? {name : String} {content : Octets}
    (h : t.file? (p ++ [name]) = some content) : name ∈ t.names p :=
  Tree.mem_names_iff.mpr ⟨_, Tree.mem_entries_of_file? h, [], rfl⟩

theorem Tree.IsCanonical.of_file? (h : t.IsCanonical) {content : Octets}
    (hfile : t.file? p = some content) : p.IsCanonical :=
  h _ (Tree.mem_entries_of_file? hfile)

/-! ## Steps back -/

theorem normalize_concat (p : Path) (c : String) :
    normalize (p ++ [c]) = if c = ".." then (normalize p).dropLast else normalize p ++ [c] := by
  simp only [normalize, List.foldl_append, List.foldl_cons, List.foldl_nil]
  split
  · simp
  · rw [List.reverse_cons]

/-- How far a path that fits the components of a pattern can lead above the place where it
starts. -/
def climb : List String → Nat
  | [] => 0
  | c :: rest =>
    if c = ".." then climb rest + 1
    -- it may stand for no directory at all
    else if c = "**" then climb rest
    else climb rest - 1

/-! ## What fits a pattern -/

/-- Some parts of a path fit the components of a pattern. -/
inductive Fits : List Segment → List String → Prop
  | nil : Fits [] []
  | here (rest : List Segment) : Fits (.here :: rest) []
  | exact {name : String} {rest : List Segment} {parts : List String} :
      name = ".." ∨ IsName name → Fits rest parts → Fits (.exact name :: rest) (name :: parts)
  | wild {pieces : List Wildcard} {name : String} {rest : List Segment} {parts : List String} :
      IsName name → fitsAll pieces name.toList = true → Fits rest parts →
      Fits (.wild pieces :: rest) (name :: parts)
  | anyDirectories {down : Path} {rest : List Segment} {parts : List String} :
      down.IsCanonical → Fits rest parts → Fits (.anyDirectories :: rest) (down ++ parts)

theorem Fits.isWritten {segments : List Segment} {parts : List String} (h : Fits segments parts) :
    Path.IsWritten parts := by
  induction h with
  | nil => exact Path.IsCanonical.nil.isWritten
  | here => exact Path.IsCanonical.nil.isWritten
  | exact hname _ ih => exact List.forall_mem_cons.mpr ⟨hname, ih⟩
  | wild hname _ _ ih => exact List.forall_mem_cons.mpr ⟨.inr hname, ih⟩
  | anyDirectories hdown _ ih => exact List.forall_mem_append.mpr ⟨hdown.isWritten, ih⟩

theorem mem_distinctHits {h : Hit} {hits : List Hit} : h ∈ distinctHits hits ↔ h ∈ hits := by
  induction hits with
  | nil => exact Iff.rfl
  | cons first hits ih =>
    rw [distinctHits, List.mem_cons, List.mem_cons, List.mem_filter, ih]
    by_cases heq : h = first <;> simp [heq]

/-- The directories below a directory are reached by names. -/
theorem exists_of_mem_directoriesBelow (ht : t.IsCanonical) {depth : Nat}
    (h : .found q ∈ directoriesBelow t depth p) : ∃ down, q = p ++ down ∧ down.IsCanonical := by
  induction depth generalizing p with
  | zero =>
    obtain rfl : q = p := by simpa [directoriesBelow] using h
    exact ⟨[], (List.append_nil q).symm, Path.IsCanonical.nil⟩
  | succ depth ih =>
    rw [directoriesBelow, List.mem_cons] at h
    rcases h with heq | h
    · obtain rfl := Hit.found.inj heq
      exact ⟨[], (List.append_nil q).symm, Path.IsCanonical.nil⟩
    · split at h
      · cases List.mem_singleton.mp h
      -- one step down is by the name of an entry
      · obtain ⟨inner, hinner, h⟩ := List.mem_flatMap.mp h
        obtain ⟨name, hname, rfl⟩ := List.mem_map.mp hinner
        split at h
        · obtain ⟨down, rfl, hdown⟩ := ih h
          refine ⟨name :: down, by simp, ?_⟩
          exact List.forall_mem_cons.mpr ⟨ht.of_mem_names hname, hdown⟩
        · cases h

/-- A component without wildcards leads to what stands there. -/
theorem mem_selectFrom_exact {name : String} {rest : List Segment}
    (h : .found q ∈ selectFrom t (.exact name :: rest) p) :
    (t.entry? (normalize (p ++ [name]))).isSome = true ∧
      .found q ∈ selectFrom t rest (p ++ [name]) := by
  rw [selectFrom] at h
  -- behind the last segment anything may stand, and behind another only a directory
  cases hlast : rest.isEmpty with
  | true =>
    rw [hlast, if_pos rfl] at h
    split at h
    · cases List.mem_singleton.mp h
    · split at h
      · rename_i hstands
        exact ⟨hstands, h⟩
      · cases h
  | false =>
    rw [hlast, if_neg Bool.false_ne_true] at h
    split at h
    · cases List.mem_singleton.mp h
    · split at h
      · rename_i hstands
        exact ⟨Tree.isSome_entry?_of_isDirectory hstands, h⟩
      · cases h

/-- What a search finds goes on from its start with parts that fit the pattern. -/
theorem fits_of_mem_selectFrom (ht : t.IsCanonical) {segments : List Segment}
    (h : .found q ∈ selectFrom t segments p) : ∃ parts, q = p ++ parts ∧ Fits segments parts := by
  induction segments generalizing p with
  | nil =>
    obtain rfl : q = p := by simpa [selectFrom] using h
    exact ⟨[], (List.append_nil q).symm, .nil⟩
  | cons segment rest ih =>
    cases segment with
    | here =>
      obtain rfl : q = p := by simpa [selectFrom] using h
      exact ⟨[], (List.append_nil q).symm, .here rest⟩
    | exact name =>
      obtain ⟨hentry, h⟩ := mem_selectFrom_exact h
      -- something stands there, and in a tree of names it has one
      have hname : name = ".." ∨ IsName name := by
        by_cases hback : name = ".."
        · exact .inl hback
        · rw [normalize_concat, if_neg hback] at hentry
          obtain ⟨e, he⟩ := Option.isSome_iff_exists.mp hentry
          have hpath := ht.of_entry? he
          exact .inr (hpath name (List.mem_append_right _ (List.mem_singleton_self name)))
      obtain ⟨parts, rfl, hparts⟩ := ih h
      exact ⟨name :: parts, by simp, .exact hname hparts⟩
    | wild pieces =>
      rw [selectFrom] at h
      split at h
      · cases List.mem_singleton.mp h
      · obtain ⟨name, hname, h⟩ := List.mem_flatMap.mp h
        obtain ⟨hmem, hfits⟩ := List.mem_filter.mp hname
        obtain ⟨parts, rfl, hparts⟩ := ih h
        exact ⟨name :: parts, by simp,
          .wild (ht.of_mem_names hmem) (Bool.and_eq_true_iff.mp hfits).1 hparts⟩
    | anyDirectories =>
      rw [selectFrom, mem_distinctHits] at h
      obtain ⟨hit, hhit, h⟩ := List.mem_flatMap.mp h
      cases hit with
      | tooLong q' => cases List.mem_singleton.mp h
      | found q' =>
        obtain ⟨down, rfl, hdown⟩ := exists_of_mem_directoriesBelow ht hhit
        obtain ⟨parts, rfl, hparts⟩ := ih h
        exact ⟨down ++ parts, by simp, .anyDirectories hdown hparts⟩

/-! ## One component with a wildcard -/

theorem fitsAll_literals {cs ending : List Char} :
    fitsAll (ending.map .literal) cs = true ↔ cs = ending := by
  induction ending generalizing cs with
  | nil => cases cs <;> simp [fitsAll]
  | cons c ending ih =>
    cases cs with
    | nil => simp [fitsAll]
    | cons d cs =>
      simp only [List.map_cons, fitsAll, Wildcard.fits, Bool.and_eq_true, beq_iff_eq, ih,
        List.cons.injEq]
      exact and_congr_left fun _ => eq_comm

/-- Any characters stand for what comes before an end of the name. -/
theorem fitsAll_anyChars_iff {pieces : List Wildcard} {cs : List Char} :
    fitsAll (.anyChars :: pieces) cs = true ↔
      ∃ back, back <:+ cs ∧ fitsAll pieces back = true := by
  rw [fitsAll]
  induction cs with
  | nil => simp [fitsAll.go]
  | cons c cs ih =>
    rw [fitsAll.go, Bool.or_eq_true, ih]
    constructor
    · rintro (h | ⟨back, hback, h⟩)
      · exact ⟨c :: cs, List.suffix_refl _, h⟩
      · exact ⟨back, hback.trans (List.suffix_cons c cs), h⟩
    · rintro ⟨back, hback, h⟩
      rcases List.suffix_cons_iff.mp hback with rfl | hback
      · exact .inl h
      · exact .inr ⟨back, hback, h⟩

/-- An ending after any characters is fitted by the names that have it. -/
theorem fitsAll_ending_iff {ending cs : List Char} :
    fitsAll (.anyChars :: ending.map .literal) cs = true ↔ ending <:+ cs := by
  simp only [fitsAll_anyChars_iff, fitsAll_literals]
  exact ⟨fun ⟨_, hback, heq⟩ => heq ▸ hback, fun h => ⟨ending, h, rfl⟩⟩

/-- A component with wildcards, when it is the only one, leads to the names that fit it. -/
theorem selectFrom_wild (pieces : List Wildcard) (h : t.isOverlong p = false) :
    selectFrom t [.wild pieces] p =
      (((t.names (normalize p)).filter fun name => fitsAll pieces name.toList).map
        (p ++ [·])).map .found := by
  rw [selectFrom, if_neg (by simp [h]), List.map_map, List.map_eq_flatMap]
  simp [selectFrom]

/-- The files of one directory stand in the order of their names. -/
theorem Path.le_concat (p : Path) (a b : String) :
    Path.le (p ++ [a]) (p ++ [b]) = Text.le a b := by
  induction p with
  | nil =>
    show (if a = b then Path.le [] [] else Text.le a b) = Text.le a b
    split
    · rename_i heq
      rw [heq, Text.le_refl]
      rfl
    · rfl
  | cons c p ih =>
    show (if c = c then Path.le (p ++ [a]) (p ++ [b]) else Text.le c c) = Text.le a b
    rw [if_pos rfl, ih]

/-! ## Patterns that do not climb above the root -/

theorem segment_of_cases {c : String} {segment : Segment} (h : Segment.of c = .ok segment) :
    (c = "**" ∧ segment = .anyDirectories) ∨ (c ≠ "**" ∧ segment = .exact c) ∨
      c ≠ "**" ∧ c ≠ ".." ∧ ∃ pieces, segment = .wild pieces := by
  unfold Segment.of at h
  split at h
  · rename_i hany
    exact .inl ⟨hany, (Except.ok.inj h).symm⟩
  · rename_i hany
    split at h
    · cases h
    · split at h
      · rename_i hwild
        refine .inr (.inr ⟨hany, ?_, _, (Except.ok.inj h).symm⟩)
        rintro rfl
        exact absurd hwild (by decide)
      · exact .inr (.inl ⟨hany, (Except.ok.inj h).symm⟩)

/-- A pattern has the segments of its components, and one more for a slash at its end. -/
theorem parse_eq_ok {pattern : String} {segments : List Segment}
    (h : Segment.parse pattern = .ok segments) :
    ∃ own tail, (components pattern).mapM Segment.of = .ok own ∧ segments = own ++ tail ∧
      (tail = [] ∨ tail = [.here]) := by
  unfold Segment.parse at h
  split at h
  · cases h
  · split at h
    · cases h
    · obtain ⟨own, hown, h⟩ := bind_eq_ok_iff.mp h
      refine ⟨own, if Text.endsWith ['/'] pattern.toList then [.here] else [], hown, ?_, ?_⟩
      · split at h
        · cases h
        · rw [pure_eq_ok_iff.mp h]
          split <;> simp
      · split <;> simp

/-- Where the components of a pattern do not climb above the root, parts that fit them do not
lead out of it. -/
theorem exists_normalize_eq_append {root below : Path} {cs parts : List String}
    {own tail : List Segment} (hroot : ".." ∉ root) (hbelow : ".." ∉ below)
    (hown : cs.mapM Segment.of = .ok own) (htail : tail = [] ∨ tail = [.here])
    (hfits : Fits (own ++ tail) parts) (hclimb : climb cs ≤ below.length) :
    ∃ inner, normalize (root ++ below ++ parts) = root ++ inner := by
  induction cs generalizing below own parts with
  | nil =>
    obtain rfl : own = [] := pure_eq_ok_iff.mp hown
    have hparts : parts = [] := by
      rcases htail with rfl | rfl <;> cases hfits <;> rfl
    refine ⟨below, ?_⟩
    rw [hparts, List.append_nil, normalize_of_not_mem (by simp [hroot, hbelow])]
  | cons c cs ih =>
    rw [List.mapM_cons] at hown
    obtain ⟨segment, hsegment, hown⟩ := bind_eq_ok_iff.mp hown
    obtain ⟨own', hown', hown⟩ := bind_eq_ok_iff.mp hown
    obtain rfl := pure_eq_ok_iff.mp hown
    -- one step down by a name makes room for one step back
    have hdeeper {name : String} {parts : List String} (hname : IsName name)
        (hlength : climb cs - 1 ≤ below.length) (hrest : Fits (own' ++ tail) parts) :
        ∃ inner, normalize (root ++ below ++ name :: parts) = root ++ inner := by
      have hbelow' : ".." ∉ below ++ [name] := by simp [hbelow, hname.ne_back.symm]
      have hlength' : climb cs ≤ (below ++ [name]).length := by
        rw [List.length_append, List.length_singleton]
        omega
      obtain ⟨inner, hinner⟩ := ih hbelow' hown' hrest hlength'
      exact ⟨inner, by rw [← hinner]; simp⟩
    rcases segment_of_cases hsegment with ⟨rfl, rfl⟩ | ⟨hany, rfl⟩ | ⟨hany, hback, pieces, rfl⟩
    · -- any directories: as deep as the directory at least
      cases hfits with
      | @anyDirectories down _ parts hdown hrest =>
        have hbelow' : ".." ∉ below ++ down := by simp [hbelow, hdown.not_mem_back]
        have hlength : climb cs ≤ (below ++ down).length := by
          have hsame : climb cs ≤ below.length := hclimb
          rw [List.length_append]
          omega
        obtain ⟨inner, hinner⟩ := ih hbelow' hown' hrest hlength
        exact ⟨inner, by rw [← hinner]; simp⟩
    · cases hfits with
      | @exact _ _ parts hname hrest =>
        by_cases hback : c = ".."
        · -- a step back takes what was left to climb
          subst hback
          have hlength : climb cs + 1 ≤ below.length := hclimb
          have hne : below ≠ [] := by
            rintro rfl
            exact absurd hlength (Nat.not_succ_le_zero _)
          have hbelow' : ".." ∉ below.dropLast := not_mem_dropLast hbelow
          have hlength' : climb cs ≤ below.dropLast.length := by
            rw [List.length_dropLast]
            omega
          obtain ⟨inner, hinner⟩ := ih hbelow' hown' hrest hlength'
          refine ⟨inner, ?_⟩
          rw [normalize_back (by simp [hroot, hbelow]), List.dropLast_append_of_ne_nil hne, hinner]
        · rw [climb, if_neg hback, if_neg hany] at hclimb
          exact hdeeper (hname.resolve_left hback) hclimb hrest
    · cases hfits with
      | wild hname _ hrest =>
        rw [climb, if_neg hback, if_neg hany] at hclimb
        exact hdeeper hname hclimb hrest

namespace Reader

variable {r : Reader} {directory pattern : String} {paths : List Path}

/-! ## Lists -/

/-- The files among the hits of a search are told apart where each of its paths can be looked
up. -/
theorem filesAmong_eq_ok_iff {hits : List Hit} :
    r.filesAmong hits = .ok paths ↔ ∃ found : List Path, hits = found.map .found ∧
      (∀ q ∈ found, r.tree.isOverlong q = false) ∧
      paths = found.filter fun q => r.tree.isFile (normalize q) := by
  -- one path that is too long fails the whole listing, so the hits are all found
  induction hits generalizing paths with
  | nil =>
    constructor
    · intro h
      obtain rfl : [] = paths := Except.ok.inj h
      exact ⟨[], rfl, fun q hq => absurd hq List.not_mem_nil, rfl⟩
    · rintro ⟨found, hhits, -, rfl⟩
      obtain rfl := List.map_eq_nil_iff.mp hhits.symm
      rfl
  | cons hit hits ih =>
    constructor
    · intro h
      cases hit with
      | tooLong q => cases h
      | found q =>
        rw [filesAmong] at h
        split at h
        · cases h
        · rename_i hlength
          obtain ⟨files, hfiles, h⟩ := bind_eq_ok_iff.mp h
          obtain ⟨found, rfl, hlengths, rfl⟩ := ih.mp hfiles
          refine ⟨q :: found, rfl, ?_, ?_⟩
          · exact List.forall_mem_cons.mpr ⟨Bool.eq_false_iff.mpr hlength, hlengths⟩
          · rw [pure_eq_ok_iff.mp h, List.filter_cons]
    · rintro ⟨found, hhits, hlengths, rfl⟩
      cases found with
      | nil => cases hhits
      | cons q found =>
        rw [List.map_cons, List.cons.injEq] at hhits
        obtain ⟨rfl, rfl⟩ := hhits
        rw [List.forall_mem_cons] at hlengths
        have hrest := ih.mpr ⟨found, rfl, hlengths.2, rfl⟩
        rw [filesAmong, if_neg (by simp [hlengths.1]), hrest, List.filter_cons]
        rfl

/-- What a list is: the files that its pattern leads to from its directory, in order. -/
theorem list_eq_ok_iff :
    r.list directory pattern = .ok paths ↔ ∃ (p : Path) (found : List Path),
      r.resolve directory = .ok p ∧ r.tree.isTooLong p = false ∧ r.tree.isDirectory p = true ∧
      select r.tree pattern p = .ok (found.map .found) ∧
      (∀ q ∈ found, r.tree.isOverlong q = false) ∧
      paths = (found.filter fun q => r.tree.isFile (normalize q)).mergeSort Path.le := by
  constructor
  · intro h
    obtain ⟨p, hp, h⟩ := bind_eq_ok_iff.mp h
    split at h
    · cases h
    · rename_i hlength
      split at h
      · cases h
      · rename_i hdirectory
        split at h
        · cases h
        · rename_i hits hselect
          obtain ⟨files, hfiles, h⟩ := bind_eq_ok_iff.mp h
          obtain ⟨found, rfl, hlengths, rfl⟩ := filesAmong_eq_ok_iff.mp hfiles
          exact ⟨p, found, hp, Bool.eq_false_iff.mpr hlength, by simpa using hdirectory, hselect,
            hlengths, pure_eq_ok_iff.mp h⟩
  · rintro ⟨p, found, hp, hlength, hdirectory, hselect, hlengths, rfl⟩
    have hfiles := filesAmong_eq_ok_iff.mpr ⟨found, rfl, hlengths, rfl⟩
    simp only [list, hp, hlength, hdirectory, hselect, hfiles, bind, Except.bind]
    rfl

theorem mem_of_list (h : r.list directory pattern = .ok paths) (hq : q ∈ paths) :
    ∃ p segments, r.resolve directory = .ok p ∧ Segment.parse pattern = .ok segments ∧
      .found q ∈ selectFrom r.tree segments p ∧ r.tree.isOverlong q = false ∧
      r.tree.isFile (normalize q) = true := by
  obtain ⟨p, found, hp, -, hdirectory, hselect, hlengths, rfl⟩ := list_eq_ok_iff.mp h
  obtain ⟨segments, hsegments, hselect⟩ := bind_eq_ok_iff.mp hselect
  rw [pure_eq_ok_iff, if_pos hdirectory] at hselect
  obtain ⟨hfound, hfile⟩ := List.mem_filter.mp (List.mem_mergeSort.mp hq)
  refine ⟨p, segments, hp, hsegments, ?_, hlengths q hfound, hfile⟩
  rw [← hselect]
  exact List.mem_map_of_mem hfound

/-- The files of a directory whose names fit a pattern of one component are listed in the order
of their names. -/
theorem list_of_wild {pieces : List Wildcard} (htree : r.tree.IsCanonical) (hp : p.IsCanonical)
    (hparse : Segment.parse pattern = .ok [.wild pieces]) (hresolve : r.resolve directory = .ok p)
    (hdirectory : r.tree.isDirectory p = true) (hlength : r.tree.isTooLong p = false)
    (hlengths : ∀ name ∈ r.tree.names p, r.tree.isTooLong (p ++ [name]) = false) :
    r.list directory pattern = .ok ((Text.sort ((r.tree.names p).filter fun name =>
      fitsAll pieces name.toList && r.tree.isFile (p ++ [name]))).map (p ++ [·])) := by
  -- a path without steps back is looked up as it is written
  have hoverlong {q : Path} (hq : q.IsCanonical) : r.tree.isOverlong q = r.tree.isTooLong q := by
    rw [Tree.isOverlong, normalize_of_not_mem hq.not_mem_back, Tree.isTooLong, ← Bool.or_assoc,
      Bool.or_self]
  have hinner {name : String} (hname : name ∈ r.tree.names p) : Path.IsCanonical (p ++ [name]) :=
    hp.append (List.forall_mem_singleton.mpr (htree.of_mem_names hname))
  have hselect : select r.tree pattern p = .ok ((((r.tree.names p).filter fun name =>
      fitsAll pieces name.toList).map (p ++ [·])).map .found) := by
    have hsearch := selectFrom_wild pieces ((hoverlong hp).trans hlength)
    rw [normalize_of_not_mem hp.not_mem_back] at hsearch
    simp only [select, hparse, hdirectory, hsearch, bind, Except.bind]
    rfl
  refine list_eq_ok_iff.mpr ⟨p, _, hresolve, hlength, hdirectory, hselect, fun q hq => ?_, ?_⟩
  · obtain ⟨name, hname, rfl⟩ := List.mem_map.mp hq
    have hmem := (List.mem_filter.mp hname).1
    rw [hoverlong (hinner hmem), hlengths name hmem]
  · have hfiles : (((r.tree.names p).filter fun name => fitsAll pieces name.toList).map
          (p ++ [·])).filter (fun q => r.tree.isFile (normalize q)) =
        ((r.tree.names p).filter fun name =>
          fitsAll pieces name.toList && r.tree.isFile (p ++ [name])).map (p ++ [·]) := by
      rw [List.filter_map, List.filter_filter]
      refine congrArg (List.map _) (List.filter_congr fun name hname => ?_)
      simp only [Function.comp_apply, normalize_of_not_mem (hinner hname).not_mem_back,
        Bool.and_comm]
    rw [hfiles]
    exact List.map_mergeSort fun a _ b _ => (Path.le_concat p a b).symm

/-! ## Inside and outside -/

/-- A path that a reader gives access to: its root, or what lies below it; but nothing lies below
the root of the tree for a reader. -/
def IsInside (r : Reader) (p : Path) : Prop := p = r.root ∨ r.root ≠ [] ∧ p.IsBelow r.root

/-- A written path that leads inside is answered. -/
theorem resolve_of_isInside (hroot : r.root.IsCanonical) {written : String} {p : Path}
    (hnull : '\x00' ∉ written.toList) (hleads : LeadsTo r.root written p) (h : r.IsInside p) :
    r.resolve written = .ok p :=
  (resolve_eq_ok_iff hroot).mpr ⟨hnull, hleads, h⟩

/-- And one that does not is refused. -/
theorem resolve_of_not_isInside (hroot : r.root.IsCanonical) {written : String} {p : Path}
    (hnull : '\x00' ∉ written.toList) (hleads : LeadsTo r.root written p) (h : ¬ r.IsInside p) :
    r.resolve written = .error (.escapes written r.root) := by
  refine resolve_eq_escapes hnull ?_
  intro q hq
  obtain ⟨-, hleads', hinside⟩ := (resolve_eq_ok_iff hroot).mp hq
  obtain rfl : p = q := hleads.unique hroot hleads'
  exact h hinside

/-- What a reader does with the path of a file: what is inside is given back and read, and what
is not is refused. -/
structure IsServed (r : Reader) (q : Path) (content : Octets) : Prop where
  file : r.tree.file? (normalize q) = some content
  inside : r.IsInside (normalize q) →
    r.resolve q.text = .ok (normalize q) ∧ r.read q.text = .ok content
  outside : ¬ r.IsInside (normalize q) →
    r.resolve q.text = .error (.escapes q.text r.root) ∧
      r.read q.text = .error (.escapes q.text r.root)

theorem isServed_of_file (hroot : r.root.IsCanonical) (hq : q.IsWritten) {content : Octets}
    (hlength : r.tree.isTooLong (normalize q) = false)
    (hfile : r.tree.file? (normalize q) = some content) : IsServed r q content := by
  have hnull : '\x00' ∉ q.text.toList := no_null_text hq
  have hleads : LeadsTo r.root q.text (normalize q) :=
    (leadsTo_iff hroot _).mpr (resolve_text hq r.root).symm
  refine ⟨hfile, fun hinside => ?_, fun houtside => ?_⟩
  · have hresolve := resolve_of_isInside hroot hnull hleads hinside
    exact ⟨hresolve, read_of_file hresolve hlength hfile⟩
  · have hresolve := resolve_of_not_isInside hroot hnull hleads houtside
    refine ⟨hresolve, ?_⟩
    rw [read_eq, hresolve]
    rfl

theorem IsContained.exists_eq_append {written : String} (h : IsContained r written p) :
    ∃ below, p = r.root ++ below := by
  rcases h.inside with heq | ⟨below, -, heq⟩
  · exact ⟨[], by rw [heq, List.append_nil]⟩
  · exact ⟨below, heq⟩

theorem tree_of_open? {tree : Tree} {place : Path} {root : String}
    (h : open? tree place root = .ok r) : r.tree = tree := by
  rw [open?_eq] at h
  split at h
  · cases h
  · obtain rfl := Except.ok.inj h
    rfl

theorem isInside_append (hne : r.root ≠ []) (rest : Path) : r.IsInside (r.root ++ rest) := by
  by_cases hrest : rest = []
  · exact .inl (by rw [hrest, List.append_nil])
  · exact .inr ⟨hne, rest, hrest, rfl⟩

/-- What is listed.  Every listed path leads to a file, which is given back and read if it lies
inside the root and refused if it does not.  Below a root that is not that of the tree, a pattern
that climbs no further than its directory lies below the root lists nothing but what is
inside. -/
theorem list_contained {tree : Tree} {place : Path} {root : String} (htree : tree.IsCanonical)
    (hplace : place.IsCanonical) (hopen : open? tree place root = .ok r)
    (hlist : r.list directory pattern = .ok paths) :
    (∀ q ∈ paths, ∃ content, IsServed r q content) ∧
    ∀ p, r.resolve directory = .ok p → r.root ≠ [] →
      climb (components pattern) ≤ p.length - r.root.length →
      ∀ q ∈ paths, r.IsInside (normalize q) := by
  have hroot : r.root.IsCanonical := isCanonical_root hplace hopen
  have htree' : r.tree.IsCanonical := tree_of_open? hopen ▸ htree
  refine ⟨fun q hq => ?_, fun p hp hne hclimb q hq => ?_⟩
  · obtain ⟨p, segments, hp, -, hfound, hlength, hfile⟩ := mem_of_list hlist hq
    obtain ⟨parts, rfl, hfits⟩ := fits_of_mem_selectFrom htree' hfound
    have hwritten : Path.IsWritten (p ++ parts) := by
      have hcanonical := (isContained_of_resolve hroot hp).canonical
      exact List.forall_mem_append.mpr ⟨hcanonical.isWritten, hfits.isWritten⟩
    obtain ⟨content, hcontent⟩ := Option.isSome_iff_exists.mp hfile
    exact ⟨content, isServed_of_file hroot hwritten (Bool.or_eq_false_iff.mp hlength).2 hcontent⟩
  · obtain ⟨p', segments, hp', hsegments, hfound, -, -⟩ := mem_of_list hlist hq
    obtain rfl : p = p' := Except.ok.inj (hp.symm.trans hp')
    obtain ⟨parts, rfl, hfits⟩ := fits_of_mem_selectFrom htree' hfound
    -- how far the pattern climbs is counted from the directory, which is as deep as it stands below
    -- the root
    obtain ⟨own, tail, hown, rfl, htail⟩ := parse_eq_ok hsegments
    have hcontained := isContained_of_resolve hroot hp
    obtain ⟨below, rfl⟩ := hcontained.exists_eq_append
    have hbelow : ".." ∉ below := fun hmem =>
      hcontained.canonical.not_mem_back (List.mem_append_right _ hmem)
    rw [List.length_append, Nat.add_sub_cancel_left] at hclimb
    obtain ⟨inner, hinner⟩ :=
      exists_normalize_eq_append hroot.not_mem_back hbelow hown htail hfits hclimb
    rw [hinner]
    exact isInside_append hne inner

/-- A tree with two files below a root and one beside it. -/
def contractsTree : Tree :=
  ⟨[(["srv", "contracts", "wsdl", "old.wsdl"], .file []),
    (["srv", "contracts", "event.json"], .file [123, 125]),
    (["srv", "secret.txt"], .file [115])]⟩

/-- A step back leaves the directory here, and not the root. -/
theorem list_contained_besideDirectory :
    let r : Reader := ⟨contractsTree, ["srv", "contracts"]⟩
    let q : Path := ["srv", "contracts", "wsdl", "..", "event.json"]
    contractsTree.IsCanonical ∧ Path.IsCanonical ["srv"] ∧
      open? contractsTree ["srv"] "contracts" = .ok r ∧
      r.list "wsdl" "../event.json" = .ok [q] ∧
      climb (components "../event.json") ≤ 1 ∧
      (∃ content, IsServed r q content) ∧ r.IsInside ["srv", "contracts", "event.json"] := by
  intro r q
  have htree : contractsTree.IsCanonical := by decide +kernel
  have hplace : Path.IsCanonical ["srv"] := by decide +kernel
  have hopen : open? contractsTree ["srv"] "contracts" = .ok r := rfl
  have hdirectory : r.resolve "wsdl" = .ok ["srv", "contracts", "wsdl"] := by decide +kernel
  have hlist : r.list "wsdl" "../event.json" = .ok [q] :=
    list_eq_ok_iff.mpr ⟨_, [q], hdirectory, by decide +kernel, by decide +kernel,
      by decide +kernel, by decide +kernel, (List.mergeSort_singleton q).symm⟩
  have hclimb : climb (components "../event.json") ≤ 1 := by decide +kernel
  have hcontained := list_contained htree hplace hopen hlist
  have hserved : ∃ content, IsServed r q content := hcontained.1 q (List.mem_singleton_self q)
  have hinside : r.IsInside (normalize q) :=
    hcontained.2 _ hdirectory (List.cons_ne_nil _ _) hclimb q (List.mem_singleton_self q)
  exact ⟨htree, hplace, hopen, hlist, hclimb, hserved, hinside⟩

/-- A step back from the root lists what lies beside it, and then it is not served. -/
example :
    let r : Reader := ⟨contractsTree, ["srv", "contracts"]⟩
    let q : Path := ["srv", "contracts", "..", "secret.txt"]
    r.list "." "../secret.txt" = .ok [q] ∧
      r.resolve q.text = .error (.escapes "/srv/contracts/../secret.txt" ["srv", "contracts"]) :=
  ⟨list_eq_ok_iff.mpr ⟨["srv", "contracts"], [["srv", "contracts", "..", "secret.txt"]], rfl,
    by decide +kernel, by decide +kernel, by decide +kernel, by decide +kernel,
    (List.mergeSort_singleton _).symm⟩, rfl⟩

end Reader

end ContractDrift.Files
