/-
A baseline that is there can be read.

A check reads its baseline only after the test that it is there.  Once this test is passed, the
check never fails to read it (`ReadsBaseline`), and what is left to go wrong lies in the document.
`exists_foretells_read` says so, and that a baseline that is reported missing could not be read.
-/
import ContractDrift.Proofs.Drift.Decision

namespace ContractDrift.Drift

open ContractDrift.Text (Octets)

variable {r : Files.Reader} {fetch : String → Except Http.FetchError Octets} {c : Check}

/-- The required fields of a schema are not there to be read off, or they are no list of texts. -/
theorem requiredNames_error_cases {side : Side} {schema : Json.Value} {e : Failure}
    (h : requiredNames side schema = .error e) :
    e = .notAnObject side ∨ e = .requiredNotTexts side := by
  cases schema with
  | object m =>
    right
    rw [requiredNames] at h
    cases hrequired : Json.Members.get? m "required" with
    | none =>
      rw [hrequired] at h
      cases h
    | some v =>
      simp only [hrequired] at h
      split at h
      · cases h
      · split at h
        · split at h <;> cases h
          rfl
        · exact (Except.error.inj h).symm
  | _ => exact .inl (Except.error.inj h).symm

/-- What goes wrong with a document is no failure of the files. -/
theorem projectBaseline_ne_file (c : Check) (p : Files.Path) (document : Octets)
    (e : Files.ReadError) : projectBaseline c p document ≠ .error (.file e) := by
  intro h
  rw [projectBaseline] at h
  cases hfamily : c.family with
  | wsdl =>
    simp only [hfamily, wsdlNames] at h
    cases hload : Wsdl.Model.load document <;> rw [hload] at h <;> cases h
  | message =>
    simp only [hfamily, baselineSchemaNames] at h
    split at h
    · rcases requiredNames_error_cases h with he | he <;> cases he
    · cases h

/-- A check whose baseline is there reads it. -/
structure ReadsBaseline (a : Access) (c : Check) (p : Files.Path) (document : Octets) : Prop where
  resolve : a.resolve c.baselinePath = .ok p
  read : a.read c.baselinePath = .ok document
  names : baselineNames a c = projectBaseline c p document
  ne_file : ∀ e, baselineNames a c ≠ .error (.file e)

theorem readsBaseline_of_isFile
    (h : (Access.fetching r fetch).isFile c.baselinePath = .ok true) :
    ∃ p document, IsBaseline r c p document ∧
      ReadsBaseline (Access.fetching r fetch) c p document := by
  rw [Access.isFile_fetching, mapError_eq_ok_iff] at h
  -- of the four ways in which a look-up goes, only the last answers that a file is there
  rcases Files.Reader.lookup_cases r c.baselinePath with ⟨_, _, hexists, _⟩ |
    ⟨_, _, _, hexists, _⟩ | ⟨_, _, hexists, _⟩ | ⟨p, document, hresolve, hlong, hfile, -, hread⟩
  · cases hexists.symm.trans h
  · cases hexists.symm.trans h
  · cases hexists.symm.trans h
  · have hbaseline : IsBaseline r c p document := ⟨hresolve, hfile⟩
    have hnames : baselineNames (Access.fetching r fetch) c = projectBaseline c p document :=
      baselineNames_eq hbaseline hlong
    refine ⟨p, document, hbaseline, mapError_eq_ok_iff.mpr hresolve, mapError_eq_ok_iff.mpr hread,
      hnames, ?_⟩
    intro e he
    exact projectBaseline_ne_file c p document e (hnames.symm.trans he)

/-- A baseline that is reported missing could not be read. -/
theorem missing_of_not_isFile
    (h : (Access.fetching r fetch).isFile c.baselinePath = .ok false) :
    checkDrift (Access.fetching r fetch) c = .ok ⟨missingBaseline c, none⟩ ∧
      ∃ e, r.read c.baselinePath = .error e ∧ (e.IsRefusal ∨ ∃ p, e = .notFound p) := by
  have hexists : r.exists? c.baselinePath = .ok false := by
    rwa [Access.isFile_fetching, mapError_eq_ok_iff] at h
  have hread := Files.Reader.foretellsRead r c.baselinePath
  constructor
  · rw [checkDrift, h]
  · cases hresolve : r.resolve c.baselinePath with
    | error e =>
      obtain ⟨he, hrefusal⟩ := hread.refused hexists e hresolve
      exact ⟨e, he, .inl hrefusal⟩
    | ok p => exact ⟨.notFound p, hread.missing hexists p hresolve, .inr ⟨p, rfl⟩⟩

/-- The test for a file foretells its reading, for every reader and every written path.  So a check
that finds its baseline to be there never fails to read it: what it compares, or fails with, is
what the document is projected to.  And a check that reports it missing could not have read it. -/
theorem exists_foretells_read (r : Files.Reader)
    (fetch : String → Except Http.FetchError Octets) (c : Check) :
    (∀ written, r.ForetellsRead written) ∧
    ((Access.fetching r fetch).isFile c.baselinePath = .ok true →
      ∃ p document, IsBaseline r c p document ∧
        ReadsBaseline (Access.fetching r fetch) c p document) ∧
    ((Access.fetching r fetch).isFile c.baselinePath = .ok false →
      checkDrift (Access.fetching r fetch) c = .ok ⟨missingBaseline c, none⟩ ∧
        ∃ e, r.read c.baselinePath = .error e ∧ (e.IsRefusal ∨ ∃ p, e = .notFound p)) :=
  ⟨Files.Reader.foretellsRead r, readsBaseline_of_isFile, missing_of_not_isFile⟩

end ContractDrift.Drift
