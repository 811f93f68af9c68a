/-
A file that has been written can be read where it was written.

Adding an entry at a path leaves the directories elsewhere what they are (`isDirectory_insert`),
so a walk that led to the path still leads there (`walk_of_directories`).  The main statement is
`open?_of_writeFile`: what was written is found under the path by which it was written.  Files at
other paths are found and read as before (`open?_of_writeFile_of_ne`, `read_insert`), and so is
every file when a directory is made (`open?_of_makeDirectory`).
-/
import ContractDrift.Files.Writing
import ContractDrift.Proofs.Files.Listing

namespace ContractDrift.Files

open ContractDrift.Text (Octets)

namespace Tree

variable {t : Tree} {p q : Path} {e : Entry}

theorem lookup_insert_of_ne (t : Tree) (e : Entry) (h : q ≠ p) :
    (t.insert p e).entries.lookup q = t.entries.lookup q := by
  have hq : (q == p) = false := by simpa using h
  show (t.entries.filter (·.1 != p) ++ [(p, e)]).lookup q = _
  rw [List.lookup_append]
  have hfilter : (t.entries.filter (·.1 != p)).lookup q = t.entries.lookup q := by
    induction t.entries with
    | nil => rfl
    | cons x r ih =>
      obtain ⟨k, v⟩ := x
      rw [List.filter_cons]
      by_cases hk : k = p
      · -- the entry that is taken out is not that of `q`
        subst hk
        simp [List.lookup_cons, hq, ih]
      · have hkeep : ((k, v).1 != p) = true := by simpa using hk
        rw [if_pos hkeep, List.lookup_cons, List.lookup_cons, ih]
  rw [hfilter]
  simp [List.lookup_cons, hq]

theorem isDirectory_iff : t.isDirectory p = true ↔ t.entry? p = some .directory := by
  simp [isDirectory]

theorem not_isFile_of_isDirectory (h : t.isDirectory p = true) : t.isFile p = false := by
  rw [isDirectory_iff] at h
  simp [isFile, file?, h]

/-- Another entry leaves a directory what it is. -/
theorem isDirectory_insert (e : Entry) (hne : q ≠ p) (h : t.isDirectory q = true) :
    (t.insert p e).isDirectory q = true := by
  rw [isDirectory_iff, entry?] at h ⊢
  rw [lookup_insert_of_ne t e hne]
  cases hlookup : t.entries.lookup q with
  | some x => simpa only [hlookup] using h
  | none =>
    simp only [hlookup] at h ⊢
    have hleads : (q.isEmpty || t.entries.any fun e => q.isPrefixOf e.1) = true := by
      split at h
      · assumption
      · cases h
    -- an entry below `q` is still there, or it is the one that has been replaced
    have hleads' : (q.isEmpty || (t.insert p e).entries.any fun e => q.isPrefixOf e.1) = true := by
      rw [Bool.or_eq_true, List.any_eq_true] at hleads ⊢
      refine hleads.imp_right ?_
      rintro ⟨x, hx, hprefix⟩
      by_cases hxp : x.1 = p
      · exact ⟨(p, e), by simp [insert], by rw [← hxp]; exact hprefix⟩
      · exact ⟨x, by simp [insert, hx, hxp], hprefix⟩
    rw [if_pos hleads']

/-- A walk goes on from directories only, and by components that are not too long. -/
theorem walk_cons_eq_ok_iff {start : Path} {c : String} {cs : List String} :
    t.walk start (c :: cs) = .ok p ↔ t.isDirectory start = true ∧ isLongComponent c = false ∧
      t.walk (if c = ".." then start.dropLast else start ++ [c]) cs = .ok p := by
  rw [walk]
  -- what is a file is no directory, so the two refusals are one
  by_cases hdirectory : t.isDirectory start = true
  · rw [not_isFile_of_isDirectory hdirectory, hdirectory]
    cases isLongComponent c <;> simp
  · rw [Bool.not_eq_true] at hdirectory
    rw [hdirectory]
    split <;> simp

/-- What is walked through is directories, so a walk leads to the same path in every tree that has
them too. -/
theorem walk_of_directories {t t' : Tree}
    (hstay : ∀ q, t.isDirectory q = true → t'.isDirectory q = true) {cs : List String}
    {start : Path} (h : t.walk start cs = .ok p) : t'.walk start cs = .ok p := by
  induction cs generalizing start with
  | nil =>
    rw [walk] at h ⊢
    exact h
  | cons c cs ih =>
    rw [walk_cons_eq_ok_iff] at h ⊢
    exact ⟨hstay start h.1, h.2.1, ih h.2.2⟩

theorem locate_eq_ok_iff {place : Path} {written : String} :
    t.locate place written = .ok p ↔
      written.toList.contains '\x00' = false ∧ isLongPath written = false ∧
        t.walk (start place written) (components written) = .ok p := by
  unfold locate
  split
  · simp_all
  · split
    · simp_all
    · rw [mapError_eq_ok_iff]
      simp_all

theorem locate_of_directories {t t' : Tree} {place : Path} {written : String}
    (hstay : ∀ q, t.isDirectory q = true → t'.isDirectory q = true)
    (h : t.locate place written = .ok p) : t'.locate place written = .ok p := by
  rw [locate_eq_ok_iff] at h ⊢
  exact ⟨h.1, h.2.1, walk_of_directories hstay h.2.2⟩

/-- What is put where no directory is leaves all directories what they are. -/
theorem directories_insert (e : Entry) (hp : t.isDirectory p = false) (q : Path)
    (hq : t.isDirectory q = true) : (t.insert p e).isDirectory q = true := by
  refine isDirectory_insert e ?_ hq
  rintro rfl
  rw [hp] at hq
  cases hq

theorem writeFile_eq_ok_iff {place : Path} {written : String} {content : Octets} {after : Tree} :
    t.writeFile place written content = .ok after ↔
      ∃ p, t.locate place written = .ok p ∧ t.isDirectory p = false ∧
        after = t.insert p (.file content) := by
  rw [writeFile, bind_eq_ok_iff]
  refine exists_congr fun p => and_congr_right fun _ => ?_
  cases t.isDirectory p with
  | true => simp
  | false => simp [eq_comm]

/-- What was written to a file is what the file holds. -/
theorem open?_of_writeFile {after : Tree} {place : Path} {written : String} {content : Octets}
    (h : t.writeFile place written content = .ok after) :
    after.open? place written = .ok content := by
  obtain ⟨p, hlocate, hdirectory, rfl⟩ := writeFile_eq_ok_iff.mp h
  rw [open?, locate_of_directories (directories_insert _ hdirectory) hlocate]
  simp only [bind, Except.bind, file?_insert_self]

/-! ## Other files -/

/-- Another entry leaves a file what it is. -/
theorem file?_insert_of_ne (t : Tree) (e : Entry) (h : q ≠ p) :
    (t.insert p e).file? q = t.file? q := by
  unfold file? entry?
  rw [lookup_insert_of_ne t e h]
  cases t.entries.lookup q with
  | some x => rfl
  | none =>
    -- what is no entry is a directory or nothing, and no file either way
    dsimp only
    split <;> split <;> simp_all

theorem open?_eq_ok_iff {place : Path} {written : String} {content : Octets} :
    t.open? place written = .ok content ↔
      ∃ p, t.locate place written = .ok p ∧ t.file? p = some content := by
  rw [open?, bind_eq_ok_iff]
  refine exists_congr fun p => and_congr_right fun _ => ?_
  cases t.file? p with
  | none => cases t.isDirectory p <;> simp
  | some c => simp

/-- A file is found as before after another has been written. -/
theorem open?_of_writeFile_of_ne {place place' : Path} {written written' : String}
    {content content' : Octets} {after : Tree} (hopen : t.open? place written = .ok content)
    (hwrite : t.writeFile place' written' content' = .ok after)
    (hne : ∀ p, t.locate place written = .ok p → t.locate place' written' ≠ .ok p) :
    after.open? place written = .ok content := by
  obtain ⟨p, hlocate, hfile⟩ := open?_eq_ok_iff.mp hopen
  obtain ⟨q, hlocate', hdirectory, rfl⟩ := writeFile_eq_ok_iff.mp hwrite
  have hpq : p ≠ q := fun heq => hne p hlocate (heq ▸ hlocate')
  have hafter := locate_of_directories (directories_insert (.file content') hdirectory) hlocate
  refine open?_eq_ok_iff.mpr ⟨p, hafter, ?_⟩
  rw [file?_insert_of_ne t _ hpq, hfile]

/-- A directory is made where none was and no file, or nothing changes. -/
theorem makeDirectory_cases {place : Path} {directory : String} {after : Tree}
    (h : t.makeDirectory place directory = .ok after) :
    after = t ∨ ∃ p, t.isFile p = false ∧ t.isDirectory p = false ∧
      after = t.insert p .directory := by
  unfold makeDirectory at h
  split at h
  · cases h
  split at h
  · cases h
  split at h
  · cases h
  split at h
  · cases h
  rename_i p _ hfile
  split at h
  · exact .inl (Except.ok.inj h).symm
  · rename_i hdirectory
    exact .inr ⟨p, by simpa using hfile, by simpa using hdirectory, (Except.ok.inj h).symm⟩

/-- A file is found as before after a directory has been made. -/
theorem open?_of_makeDirectory {place place' : Path} {written directory : String}
    {content : Octets} {after : Tree} (hopen : t.open? place written = .ok content)
    (hmake : t.makeDirectory place' directory = .ok after) :
    after.open? place written = .ok content := by
  rcases makeDirectory_cases hmake with rfl | ⟨q, hnofile, hdirectory, rfl⟩
  · exact hopen
  · obtain ⟨p, hlocate, hfile⟩ := open?_eq_ok_iff.mp hopen
    have hpq : p ≠ q := by
      rintro rfl
      simp [isFile, hfile] at hnofile
    refine open?_eq_ok_iff.mpr
      ⟨p, locate_of_directories (directories_insert _ hdirectory) hlocate, ?_⟩
    rw [file?_insert_of_ne t _ hpq, hfile]

theorem isDirectory_insert_self (t : Tree) (p : Path) (content : Octets) :
    (t.insert p (.file content)).isDirectory p = false := by
  cases h : (t.insert p (.file content)).isDirectory p with
  | false => rfl
  | true =>
    have hfile := not_isFile_of_isDirectory h
    rw [isFile, file?_insert_self] at hfile
    cases hfile

/-- What leads to a file is still no directory after another file has been put somewhere, if it was
none before. -/
theorem isDirectory_of_insert {content content' : Octets} (hq : t.file? q = some content')
    {i : Nat} (h : (t.insert p (.file content)).isDirectory (q.take i) = true) :
    t.isDirectory (q.take i) = true := by
  have hne : q.take i ≠ p := by
    rintro rfl
    rw [isDirectory_insert_self] at h
    cases h
  rw [isDirectory_iff, entry?] at h ⊢
  rw [lookup_insert_of_ne t _ hne] at h
  cases hlookup : t.entries.lookup (q.take i) with
  | some x => simpa only [hlookup] using h
  | none =>
    -- the file itself stands below every path that leads to it
    have hleads : t.entries.any (fun e => (q.take i).isPrefixOf e.1) = true :=
      List.any_eq_true.mpr ⟨_, mem_entries_of_file? hq,
        List.isPrefixOf_iff_prefix.mpr (List.take_prefix i q)⟩
    simp [hleads]

/-- A file that can be looked up can be looked up after another has been put somewhere. -/
theorem isTooLong_insert {content content' : Octets} (hq : t.file? q = some content')
    (hlength : t.isTooLong q = false) : (t.insert p (.file content)).isTooLong q = false := by
  rw [isTooLong, Bool.or_eq_false_iff, List.any_eq_false] at hlength ⊢
  refine ⟨hlength.1, fun i hi h => hlength.2 i hi ?_⟩
  rw [Bool.and_eq_true] at h ⊢
  exact ⟨isDirectory_of_insert hq h.1, h.2⟩

end Tree

/-- A file is read as before after another has been put somewhere. -/
theorem Reader.read_insert {t : Tree} {root q : Path} {written : String} {content content' : Octets}
    (h : (Reader.mk t root).read written = .ok content')
    (hq : (Reader.mk t root).resolve written ≠ .ok q) :
    (Reader.mk (t.insert q (.file content)) root).read written = .ok content' := by
  rw [Reader.read_eq] at h
  obtain ⟨p, hresolve, h⟩ := bind_eq_ok_iff.mp h
  have hne : p ≠ q := fun heq => hq (heq ▸ hresolve)
  split at h
  · cases h
  rename_i hlength
  split at h
  · rename_i found hfile
    obtain rfl := Except.ok.inj h
    refine Reader.read_of_file hresolve ?_ ?_
    · exact Tree.isTooLong_insert hfile (Bool.not_eq_true _ ▸ hlength)
    · rw [← hfile]
      exact Tree.file?_insert_of_ne t _ hne
  · cases h

end ContractDrift.Files
