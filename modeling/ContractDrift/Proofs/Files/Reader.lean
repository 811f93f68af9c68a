/-
Looking for a file and reading it.

A file is looked for at the path that a text resolves to: where the text resolves to none there
is no file, and a path that is too long cannot be looked up.  It is read at the same path, so that
one of four things is the case for both (`lookup_cases`), and the test for a file foretells what its
reading comes to (`foretellsRead`).
-/
import ContractDrift.Files.Reader
import ContractDrift.Files.Writing
import ContractDrift.Proofs.Outcome

namespace ContractDrift.Files

/-- A failure that is the refusal of a path: it leads outside, or it holds a NUL character. -/
inductive ReadError.IsRefusal : ReadError → Prop
  | escapes (written : String) (root : Path) : IsRefusal (.escapes written root)
  | embeddedNull : IsRefusal .embeddedNull

namespace Reader

/-- The test for a file foretells its reading. -/
structure ForetellsRead (r : Reader) (written : String) : Prop where
  /-- A file is there exactly if it is read. -/
  found_iff : r.exists? written = .ok true ↔ ∃ content, r.read written = .ok content
  /-- What is read is the file that the path resolves to. -/
  content : ∀ content, r.read written = .ok content →
    ∃ p, r.resolve written = .ok p ∧ r.tree.file? p = some content
  /-- Of what is not there, a path that is refused is refused by the reading too. -/
  refused : r.exists? written = .ok false → ∀ e, r.resolve written = .error e →
    r.read written = .error e ∧ e.IsRefusal
  /-- And at any other path the reading finds nothing. -/
  missing : r.exists? written = .ok false → ∀ p, r.resolve written = .ok p →
    r.read written = .error (.notFound p)
  /-- The test fails where a path is too long to be looked up, and then so does the reading. -/
  failed : ∀ e, r.exists? written = .error e → r.read written = .error e ∧
    ∃ p, r.resolve written = .ok p ∧ r.tree.isTooLong p = true ∧ e = .nameTooLong p

variable {r : Reader} {written : String} {p : Path}

theorem open?_eq (tree : Tree) (place : Path) (root : String) :
    open? tree place root =
      if root.toList.contains '\x00' then .error .embeddedNull
      else .ok ⟨tree, Files.resolve place root⟩ := rfl

theorem resolve_eq (r : Reader) (written : String) :
    r.resolve written =
      if written.toList.contains '\x00' then .error .embeddedNull
      else if Files.resolve r.root written = r.root ∨
          r.isBelow (Files.resolve r.root written) = true then
        .ok (Files.resolve r.root written)
      else .error (.escapes written r.root) := rfl

/-- A path is refused for a NUL in it or because it leads outside. -/
theorem resolve_error_cases {e : ReadError} (h : r.resolve written = .error e) :
    e = .embeddedNull ∨ e = .escapes written r.root := by
  rw [resolve_eq] at h
  split at h
  · exact Or.inl (Except.error.inj h).symm
  · split at h
    · exact absurd h (by simp)
    · exact Or.inr (Except.error.inj h).symm

/-- Without a NUL in it, a written path is refused if it is not answered. -/
theorem resolve_eq_escapes (hnull : '\x00' ∉ written.toList)
    (h : ∀ p, r.resolve written ≠ .ok p) :
    r.resolve written = .error (.escapes written r.root) := by
  cases hresolve : r.resolve written with
  | ok p => exact absurd hresolve (h p)
  | error e =>
    rcases resolve_error_cases hresolve with rfl | rfl
    · rw [resolve_eq, if_neg (by simpa using hnull)] at hresolve
      split at hresolve <;> cases hresolve
    · rfl

/-- A path that cannot be resolved names no file. -/
theorem exists?_of_resolve_error {e : ReadError} (h : r.resolve written = .error e) :
    r.exists? written = .ok false := by
  rw [exists?, h]
  rcases resolve_error_cases h with rfl | rfl <;> rfl

theorem exists?_of_resolve (h : r.resolve written = .ok p) :
    r.exists? written =
      if r.tree.isTooLong p then .error (.nameTooLong p) else .ok (r.tree.isFile p) := by
  rw [exists?, h]
  rfl

/-- A file cannot be looked for only where its path is too long. -/
theorem exists?_eq_error_iff {e : ReadError} :
    r.exists? written = .error e ↔
      ∃ p, r.resolve written = .ok p ∧ r.tree.isTooLong p = true ∧ e = .nameTooLong p := by
  constructor
  · intro h
    cases hresolve : r.resolve written with
    | error e' =>
      rw [exists?_of_resolve_error hresolve] at h
      cases h
    | ok p =>
      rw [exists?_of_resolve hresolve] at h
      split at h
      · rename_i hlong
        exact ⟨p, rfl, hlong, (Except.error.inj h).symm⟩
      · cases h
  · rintro ⟨p, hresolve, hlong, rfl⟩
    rw [exists?_of_resolve hresolve, if_pos hlong]

/-- What is read stands at the path that the text resolves to. -/
theorem read_eq (r : Reader) (written : String) :
    r.read written = (r.resolve written).bind fun p =>
      if r.tree.isTooLong p then .error (.nameTooLong p)
      else match r.tree.file? p with
        | some content => .ok content
        | none => .error (.notFound p) := by
  cases hresolve : r.resolve written with
  | error e => simp [read, hresolve, bind, Except.bind]
  | ok p =>
    simp only [read, hresolve, isFileAt, bind, Except.bind]
    cases r.tree.isTooLong p <;> rfl

/-- A file is not read because its path is refused, is too long, or names no file. -/
theorem read_error_cases {e : ReadError} (h : r.read written = .error e) :
    r.resolve written = .error e ∨ ∃ p, r.resolve written = .ok p ∧
      (e = .nameTooLong p ∨ e = .notFound p) := by
  rw [read_eq] at h
  rcases bind_eq_error_iff.mp h with hresolve | ⟨p, hp, h⟩
  · exact .inl hresolve
  · refine .inr ⟨p, hp, ?_⟩
    split at h
    · exact .inl (Except.error.inj h).symm
    · split at h
      · cases h
      · exact .inr (Except.error.inj h).symm

/-- The files among the hits of a search are not told apart because one of the paths is too
long. -/
theorem filesAmong_error_cases {hits : List Hit} {e : ReadError}
    (h : r.filesAmong hits = .error e) : ∃ q, e = .nameTooLong q := by
  induction hits with
  | nil => cases h
  | cons hit hits ih =>
    cases hit with
    | tooLong q => exact ⟨q, (Except.error.inj h).symm⟩
    | found q =>
      rw [filesAmong] at h
      split at h
      · exact ⟨q, (Except.error.inj h).symm⟩
      · rcases bind_eq_error_iff.mp h with hrest | ⟨files, -, hfiles⟩
        · exact ih hrest
        · exact absurd hfiles pure_ne_error

/-- The files of a directory are not listed because its path is refused or names no directory,
because a path is too long, or because the pattern is refused. -/
theorem list_error_cases {directory pattern : String} {e : ReadError}
    (h : r.list directory pattern = .error e) :
    r.resolve directory = .error e ∨ (∃ q, e = .nameTooLong q) ∨
      ∃ p, r.resolve directory = .ok p ∧ (e = .directoryNotFound p ∨
        ∃ e', select r.tree pattern p = .error e' ∧ e = .pattern e') := by
  rcases bind_eq_error_iff.mp h with hresolve | ⟨p, hp, h⟩
  · exact .inl hresolve
  · refine .inr ?_
    split at h
    · exact .inl ⟨p, (Except.error.inj h).symm⟩
    · split at h
      · exact .inr ⟨p, hp, .inl (Except.error.inj h).symm⟩
      · split at h
        · rename_i e' he'
          exact .inr ⟨p, hp, .inr ⟨e', he', (Except.error.inj h).symm⟩⟩
        · rcases bind_eq_error_iff.mp h with hfiles | ⟨files, -, hfiles⟩
          · exact .inl (filesAmong_error_cases hfiles)
          · exact absurd hfiles pure_ne_error

theorem read_of_file {content : Text.Octets} (h : r.resolve written = .ok p)
    (hlength : r.tree.isTooLong p = false) (hfile : r.tree.file? p = some content) :
    r.read written = .ok content := by
  simp only [read, h, isFileAt, hlength, hfile, bind, Except.bind]
  rfl

theorem isRefusal_of_resolve {e : ReadError} (h : r.resolve written = .error e) :
    e.IsRefusal := by
  rcases resolve_error_cases h with rfl | rfl
  · exact .embeddedNull
  · exact .escapes written r.root

/-- What the test for a file and its reading come to. -/
theorem lookup_cases (r : Reader) (written : String) :
    (∃ e, r.resolve written = .error e ∧ r.exists? written = .ok false ∧
      r.read written = .error e) ∨
    (∃ p, r.resolve written = .ok p ∧ r.tree.isTooLong p = true ∧
      r.exists? written = .error (.nameTooLong p) ∧ r.read written = .error (.nameTooLong p)) ∨
    (∃ p, r.resolve written = .ok p ∧ r.exists? written = .ok false ∧
      r.read written = .error (.notFound p)) ∨
    ∃ p content, r.resolve written = .ok p ∧ r.tree.isTooLong p = false ∧
      r.tree.file? p = some content ∧ r.exists? written = .ok true ∧
      r.read written = .ok content := by
  have hread := read_eq r written
  cases hresolve : r.resolve written with
  | error e =>
    rw [hresolve] at hread
    exact .inl ⟨e, rfl, exists?_of_resolve_error hresolve, hread⟩
  | ok p =>
    have hexists := exists?_of_resolve hresolve
    rw [hresolve, Except.bind] at hread
    by_cases hlong : r.tree.isTooLong p = true
    · rw [if_pos hlong] at hexists hread
      exact .inr (.inl ⟨p, rfl, hlong, hexists, hread⟩)
    · rw [if_neg hlong] at hexists hread
      rw [Tree.isFile] at hexists
      cases hfile : r.tree.file? p with
      | none =>
        rw [hfile] at hexists hread
        exact .inr (.inr (.inl ⟨p, rfl, hexists, hread⟩))
      | some content =>
        rw [hfile] at hexists hread
        have hshort : r.tree.isTooLong p = false := Bool.eq_false_iff.mpr hlong
        exact .inr (.inr (.inr ⟨p, content, rfl, hshort, hfile, hexists, hread⟩))

theorem foretellsRead (r : Reader) (written : String) : r.ForetellsRead written := by
  rcases lookup_cases r written with ⟨e, hresolve, hexists, hread⟩ |
    ⟨p, hresolve, hlong, hexists, hread⟩ | ⟨p, hresolve, hexists, hread⟩ |
    ⟨p, content, hresolve, -, hfile, hexists, hread⟩
  · -- refused
    constructor
    · simp [hexists, hread]
    · simp [hread]
    · intro _ e' he'
      obtain rfl : e = e' := Except.error.inj (hresolve.symm.trans he')
      exact ⟨hread, isRefusal_of_resolve hresolve⟩
    · simp [hresolve]
    · simp [hexists]
  · -- too long
    constructor
    · simp [hexists, hread]
    · simp [hread]
    · simp [hexists]
    · simp [hexists]
    · intro e he
      obtain rfl : .nameTooLong p = e := Except.error.inj (hexists.symm.trans he)
      exact ⟨hread, p, hresolve, hlong, rfl⟩
  · -- missing
    constructor
    · simp [hexists, hread]
    · simp [hread]
    · simp [hresolve]
    · intro _ q hq
      obtain rfl : p = q := Except.ok.inj (hresolve.symm.trans hq)
      exact hread
    · simp [hexists]
  · -- there
    constructor
    · simp [hexists, hread]
    · intro content' h
      obtain rfl : content = content' := Except.ok.inj (hread.symm.trans h)
      exact ⟨p, hresolve, hfile⟩
    · simp [hexists]
    · simp [hexists]
    · simp [hexists]

end Reader

end ContractDrift.Files

namespace ContractDrift.Files.Tree

/-- A path is refused for what its text holds only if that is a NUL. -/
theorem locate_eq_embeddedNull_iff {t : Tree} {place : Path} {written : String} :
    t.locate place written = .error .embeddedNull ↔ '\x00' ∈ written.toList := by
  rw [locate]
  split
  · rename_i h
    exact iff_of_true rfl (List.contains_iff_mem.mp h)
  · rename_i h
    refine iff_of_false ?_ fun hmem => h (List.contains_iff_mem.mpr hmem)
    split
    · simp
    · rw [mapError_eq_error_iff]
      rintro ⟨o, -, ho⟩
      cases o <;> cases ho

theorem open?_eq_embeddedNull_iff {t : Tree} {place : Path} {written : String} :
    t.open? place written = .error .embeddedNull ↔ '\x00' ∈ written.toList := by
  rw [open?, bind_eq_error_iff, locate_eq_embeddedNull_iff]
  refine ⟨?_, .inl⟩
  rintro (hmem | ⟨p, -, h⟩)
  · exact hmem
  · split at h
    · cases h
    · split at h <;> cases h

end ContractDrift.Files.Tree
