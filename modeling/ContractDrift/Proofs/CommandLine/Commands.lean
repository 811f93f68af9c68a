/-
What the commands of the program come to.

A command comes to a verdict when it can locate, read and parse all that it needs (`Answers`), and
to the status for errors when it cannot (`Fails`), unless it comes to an input that is unfit
(`Unfit`): a path with a NUL or one that leads out of the contracts' directory, a character set or
an encoding that cannot be read, a number with too many digits, or a schema whose evaluation comes
to no end.  `outcome_eq_statusOf_iff` says that the answers are as they should be, and
`breaksOff_outcome_iff` that nothing else than an unfit input breaks a command off.

Design notes: each command is a sequence of steps in `Except` (`outcome_validateSoap` and its
likes), and what holds of the sequence is put together from its steps by `bind_eq_ok_iff` and
`breaksOff_bind_iff`.  An envelope that is not well-formed is an answer and no failure, and so is
a baseline that a check cannot read.
-/
import ContractDrift.CommandLine.Run
import ContractDrift.Proofs.Drift.Isolation
import ContractDrift.Proofs.Schema.History
import ContractDrift.Proofs.Soap.EnvelopeRoundTrip
import ContractDrift.Proofs.Soap.Verdict

namespace ContractDrift.CommandLine

open ContractDrift.Json (Value)
open ContractDrift.Text (Octets)
open ContractDrift.Wsdl (Direction Model)

variable {s : Settings} {w : Surroundings} {c : Command}

/-! ## What a command needs -/

/-- The files of the contracts can be reached. -/
def HasFiles (s : Settings) (w : Surroundings) (r : Files.Reader) : Prop :=
  Files.Reader.open? w.files w.place s.contractsRoot = .ok r

/-- The stored description is located, read and parsed. -/
def HasModel (s : Settings) (w : Surroundings) (m : Model) : Prop :=
  ∃ r octets, HasFiles s w r ∧ r.read s.wsdlPath = .ok octets ∧ Model.load octets = .ok m

/-- The schemas of the directory are all loaded. -/
def HasSchemas (s : Settings) (w : Surroundings) (registry : Schema.Registry) : Prop :=
  ∃ r, HasFiles s w r ∧
    (Schema.Registry.empty.loadAll r s.messageSchemasDirectory).failure = none ∧
    (Schema.Registry.empty.loadAll r s.messageSchemasDirectory).registry = registry

/-- The payload is located, read, decoded and parsed. -/
def HasPayload (w : Surroundings) (path : String) (v : Value) : Prop :=
  ∃ octets text, w.files.open? w.place (Files.tidy path) = .ok octets ∧
    Text.decodeUtf8 false octets = .ok text ∧
    Json.parseChars (Text.unifyEnds text.toList) = .ok v

/-- The checks are made, and this is their report. -/
def HasReport (s : Settings) (w : Surroundings) (wsdlUrl messageSchemaUrl : Option String)
    (report : Drift.Report) : Prop :=
  ∃ r outcomes, HasFiles s w r ∧
    Drift.run (fun _ => Drift.Access.of r w.network) (checksOf s wsdlUrl messageSchemaUrl) =
      .ok outcomes ∧
    report = Drift.reportOf w.now outcomes

/-- A command has all that it needs, and what it checks is in order or not. -/
def Answers (s : Settings) (w : Surroundings) : Command → Bool → Prop
  | .driftCheck directory wsdlUrl messageSchemaUrl, fine =>
    ∃ report files, HasReport s w wsdlUrl messageSchemaUrl report ∧
      withReport w.files w.place (reportDirectoryOf s directory) report = .ok files ∧
      fine = !report.hasDrift
  | .validateSoap envelope operation d strict, fine =>
    ∃ m octets verdict, HasModel s w m ∧
      w.files.open? w.place (Files.tidy envelope) = .ok octets ∧
      Soap.validateIn m (strict || s.strictSoap) octets operation d = .ok verdict ∧
      fine = verdict.valid
  | .validateMessage schema payload, fine =>
    ∃ registry v verdict, HasSchemas s w registry ∧ HasPayload w payload v ∧
      registry.validate schema v = .ok verdict ∧ fine = verdict.isValid
  | .listOperations, fine => ∃ m, HasModel s w m ∧ fine = true
  | .skeleton operation _, fine =>
    ∃ m o, HasModel s w m ∧ m.operation? operation = some o ∧ fine = true

/-- Something that a command needs cannot be located, read, decoded or parsed. -/
def Fails (s : Settings) (w : Surroundings) : Command → Prop
  | .driftCheck directory wsdlUrl messageSchemaUrl =>
    ∀ report files, HasReport s w wsdlUrl messageSchemaUrl report →
      withReport w.files w.place (reportDirectoryOf s directory) report ≠ .ok files
  | .validateSoap envelope _ _ _ =>
    (∀ m, ¬ HasModel s w m) ∨ ∀ octets, w.files.open? w.place (Files.tidy envelope) ≠ .ok octets
  | .validateMessage _ payload =>
    (∀ registry, ¬ HasSchemas s w registry) ∨ ∀ v, ¬ HasPayload w payload v
  | .listOperations => ∀ m, ¬ HasModel s w m
  | .skeleton _ _ => ∀ m, ¬ HasModel s w m

/-! ## What is unfit -/

/-- The stored description has a path that is refused, or cannot be read. -/
def HasUnfitModel (s : Settings) (w : Surroundings) : Prop :=
  ∃ r, HasFiles s w r ∧ ((∃ e, r.resolve s.wsdlPath = .error e) ∨
    ∃ octets, r.read s.wsdlPath = .ok octets ∧ ¬ Soap.IsReadable octets)

/-- The path of a schema is refused, it has a number with too many digits, or its check comes to no
end. -/
inductive IsUnfitSchema : Schema.LoadError → Prop
  | escapes (written : String) (root : Files.Path) :
      IsUnfitSchema (.unreadable (.escapes written root))
  | embeddedNull : IsUnfitSchema (.unreadable .embeddedNull)
  | tooManyDigits (e : Json.ReadError) : IsUnfitSchema (.tooManyDigits e)
  | stopped (stop : Schema.Stop) : IsUnfitSchema (.stopped stop)

/-- The first of the schemas that is not loaded is unfit. -/
def HasUnfitSchema (s : Settings) (w : Surroundings) : Prop :=
  ∃ r e, HasFiles s w r ∧
    (Schema.Registry.empty.loadAll r s.messageSchemasDirectory).failure = some e ∧
    IsUnfitSchema e

/-- The payload has a path with a NUL, is no text, or has a number with too many digits. -/
def HasUnfitPayload (w : Surroundings) (path : String) : Prop :=
  '\x00' ∈ (Files.tidy path).toList ∨
    ∃ octets, w.files.open? w.place (Files.tidy path) = .ok octets ∧
      ((∃ e, Text.decodeUtf8 false octets = .error e) ∨
        ∃ text n, Text.decodeUtf8 false octets = .ok text ∧
          Json.parseChars (Text.unifyEnds text.toList) = .error (.tooManyDigits n))

/-- A command comes to an input that is unfit. -/
def Unfit (s : Settings) (w : Surroundings) (c : Command) : Prop :=
  '\x00' ∈ s.contractsRoot.toList ∨ match c with
  | .driftCheck directory wsdlUrl messageSchemaUrl =>
    ∃ report, HasReport s w wsdlUrl messageSchemaUrl report ∧
      withReport w.files w.place (reportDirectoryOf s directory) report = .error .embeddedNull
  | .validateSoap envelope operation _ _ =>
    HasUnfitModel s w ∨ ∃ m, HasModel s w m ∧ ('\x00' ∈ (Files.tidy envelope).toList ∨
      ∃ octets o, w.files.open? w.place (Files.tidy envelope) = .ok octets ∧
        m.operation? operation = some o ∧ ¬ Soap.IsReadable octets)
  | .validateMessage schema payload =>
    HasUnfitSchema s w ∨ ∃ registry, HasSchemas s w registry ∧ (HasUnfitPayload w payload ∨
      ∃ v stop, HasPayload w payload v ∧ registry.validate schema v = .error (.stopped stop))
  | .listOperations => HasUnfitModel s w
  | .skeleton _ _ => HasUnfitModel s w

/-! ## Failures that break a run off -/

/-- Steps come to a failure that is not reported. -/
def BreaksOff {α : Type} (x : Except Failure α) : Prop :=
  ∃ e, x = .error e ∧ e.isReported = false

theorem breaksOff_bind_iff {α β : Type} {x : Except Failure α} {f : α → Except Failure β} :
    BreaksOff (x >>= f) ↔ BreaksOff x ∨ ∃ a, x = .ok a ∧ BreaksOff (f a) := by
  unfold BreaksOff
  simp only [bind_eq_error_iff]
  constructor
  · rintro ⟨e, he | ⟨a, ha, he⟩, hreported⟩
    · exact .inl ⟨e, he, hreported⟩
    · exact .inr ⟨a, ha, e, he, hreported⟩
  · rintro (⟨e, he, hreported⟩ | ⟨a, ha, e, he, hreported⟩)
    · exact ⟨e, .inl he, hreported⟩
    · exact ⟨e, .inr ⟨a, ha, he⟩, hreported⟩

theorem not_breaksOff_ok {α : Type} (a : α) : ¬ BreaksOff (.ok a : Except Failure α) := by
  rintro ⟨e, he, -⟩
  cases he

theorem breaksOff_mapError_iff {ε α : Type} {x : Except ε α} {f : ε → Failure} :
    BreaksOff (x.mapError f) ↔ ∃ e, x = .error e ∧ (f e).isReported = false := by
  unfold BreaksOff
  simp only [mapError_eq_error_iff]
  constructor
  · rintro ⟨_, ⟨e, he, rfl⟩, hreported⟩
    exact ⟨e, he, hreported⟩
  · rintro ⟨e, he, hreported⟩
    exact ⟨_, ⟨e, he, rfl⟩, hreported⟩

/-! ## The stored contracts -/

theorem storedFiles_eq_ok_iff {r : Files.Reader} : storedFiles s w = .ok r ↔ HasFiles s w r :=
  mapError_eq_ok_iff

theorem breaksOff_storedFiles_iff :
    BreaksOff (storedFiles s w) ↔ '\x00' ∈ s.contractsRoot.toList := by
  rw [storedFiles, breaksOff_mapError_iff, Files.Reader.open?_eq]
  split
  · rename_i h
    exact iff_of_true ⟨_, rfl, rfl⟩ (List.contains_iff_mem.mp h)
  · rename_i h
    exact iff_of_false (fun ⟨_, he, _⟩ => nomatch he)
      fun hmem => h (List.contains_iff_mem.mpr hmem)

theorem isReported_file_iff {e : Files.ReadError} :
    (Failure.file e).isReported = false ↔
      (∃ written root, e = .escapes written root) ∨ e = .embeddedNull ∨ ∃ p, e = .pattern p := by
  cases e <;> simp [Failure.isReported, Failure.ofFileSystem, Files.ReadError.isAbsence]

theorem isReported_of_resolve_error {r : Files.Reader} {written : String} {e : Files.ReadError}
    (h : r.resolve written = .error e) : (Failure.file e).isReported = false := by
  rcases Files.Reader.resolve_error_cases h with rfl | rfl <;> rfl

/-- A file that is not there is reported, so that only a path that is refused breaks off. -/
theorem breaksOff_read_iff {r : Files.Reader} {written : String} :
    BreaksOff ((r.read written).mapError .file) ↔ ∃ e, r.resolve written = .error e := by
  rw [breaksOff_mapError_iff]
  constructor
  · rintro ⟨e, he, hreported⟩
    rcases Files.Reader.read_error_cases he with hresolve | ⟨p, -, rfl | rfl⟩
    · exact ⟨e, hresolve⟩
    · cases hreported
    · cases hreported
  · rintro ⟨e, hresolve⟩
    refine ⟨e, ?_, isReported_of_resolve_error hresolve⟩
    rw [Files.Reader.read_eq, hresolve]
    rfl

theorem breaksOff_load_iff {octets : Octets} :
    BreaksOff ((Model.load octets).mapError .description) ↔ ¬ Soap.IsReadable octets := by
  rw [breaksOff_mapError_iff, Model.load, Soap.IsReadable]
  cases Xml.Node.parse octets <;> simp [Except.map, Failure.isReported]

theorem storedModel_eq_ok_iff {m : Model} : storedModel s w = .ok m ↔ HasModel s w m := by
  simp only [storedModel, bind_eq_ok_iff, mapError_eq_ok_iff, storedFiles_eq_ok_iff, HasModel,
    exists_and_left]

theorem breaksOff_storedModel_iff :
    BreaksOff (storedModel s w) ↔ '\x00' ∈ s.contractsRoot.toList ∨ HasUnfitModel s w := by
  simp only [storedModel, breaksOff_bind_iff, breaksOff_storedFiles_iff, breaksOff_read_iff,
    breaksOff_load_iff, mapError_eq_ok_iff, storedFiles_eq_ok_iff, HasUnfitModel]

/-! ## What a command comes to -/

theorem outcome_withStoredModel (command : List Log.Note → Model → Activity) :
    (withStoredModel s w command).outcome =
      (storedModel s w >>= fun m => (command (storedModelNotes s w) m).outcome) := by
  rw [withStoredModel]
  cases storedModel s w <;> rfl

theorem outcome_validateSoap (envelope operation : String) (d : Direction) (strict : Bool) :
    (validateSoap s w envelope operation d strict).outcome = (do
      let m ← storedModel s w
      let octets ← (w.files.open? w.place (Files.tidy envelope)).mapError .path
      let verdict ←
        (Soap.validateIn m (strict || s.strictSoap) octets operation d).mapError .envelope
      return statusOf verdict.valid) := by
  rw [validateSoap, outcome_withStoredModel]
  refine bind_congr fun m => ?_
  cases w.files.open? w.place (Files.tidy envelope) with
  | error e => rfl
  | ok octets =>
    simp only [Except.mapError, bind, Except.bind]
    cases Soap.validateIn m (strict || s.strictSoap) octets operation d <;> rfl

theorem outcome_listOperations :
    (listOperations s w).outcome = (do let _ ← storedModel s w; return statusFine) := by
  rw [listOperations, outcome_withStoredModel]
  rfl

theorem outcome_skeleton (operation : String) (d : Direction) :
    (skeleton s w operation d).outcome = (do
      let m ← storedModel s w
      return if (m.operation? operation).isSome then statusFine else statusUnusable) := by
  rw [skeleton, outcome_withStoredModel]
  refine bind_congr fun m => ?_
  cases m.operation? operation with
  | none => rfl
  | some o =>
    have huri : Soap.defaultNamespace ≠ "" := by decide
    obtain ⟨text, htext⟩ := Soap.exists_buildIn o d [] huri
    simp only [htext]
    rfl

/-- The schemas of the directory, in a registry. -/
def storedSchemas (s : Settings) (w : Surroundings) : Except Failure Schema.Registry := do
  let r ← storedFiles s w
  let batch := Schema.Registry.empty.loadAll r s.messageSchemasDirectory
  match batch.failure with
  | some e => .error (.schema e)
  | none => .ok batch.registry

theorem outcome_validateMessage (schema payload : String) :
    (validateMessage s w schema payload).outcome = (do
      let registry ← storedSchemas s w
      match ← readPayload w (Files.tidy payload) with
      | .error _ => return statusUnusable
      | .ok v =>
        let verdict ← (registry.validate schema v).mapError .query
        return statusOf verdict.isValid) := by
  rw [validateMessage, storedSchemas]
  cases storedFiles s w with
  | error e => rfl
  | ok r =>
    simp only [bind, Except.bind]
    cases (Schema.Registry.empty.loadAll r s.messageSchemasDirectory).failure with
    | some e => rfl
    | none =>
      simp only [validateLoaded]
      cases readPayload w (Files.tidy payload) with
      | error e => rfl
      | ok parsed =>
        cases parsed with
        | error e => rfl
        | ok v =>
          simp only [Except.mapError]
          cases (Schema.Registry.empty.loadAll r s.messageSchemasDirectory).registry.validate
            schema v <;> rfl

/-- The report on the checks. -/
def reportOfChecks (s : Settings) (w : Surroundings) (wsdlUrl messageSchemaUrl : Option String) :
    Except Failure Drift.Report := do
  let r ← storedFiles s w
  let outcomes ← (Drift.run (fun _ => Drift.Access.of r w.network)
    (checksOf s wsdlUrl messageSchemaUrl)).mapError .drift
  return Drift.reportOf w.now outcomes

theorem outcome_driftCheck (directory wsdlUrl messageSchemaUrl : Option String) :
    (driftCheck s w directory wsdlUrl messageSchemaUrl).outcome = (do
      let report ← reportOfChecks s w wsdlUrl messageSchemaUrl
      let _ ← (withReport w.files w.place (reportDirectoryOf s directory) report).mapError .path
      return statusOf (!report.hasDrift)) := by
  rw [driftCheck, reportOfChecks]
  cases storedFiles s w with
  | error e => rfl
  | ok r =>
    simp only [bind, Except.bind]
    cases Drift.run (fun _ => Drift.Access.of r w.network)
      (checksOf s wsdlUrl messageSchemaUrl) with
    | error e => rfl
    | ok outcomes =>
      simp only [Except.mapError, saveReport, pure, Except.pure]
      cases withReport w.files w.place (reportDirectoryOf s directory)
        (Drift.reportOf w.now outcomes) with
      | error e => rfl
      | ok files =>
        simp only [Drift.Report.exitStatus]
        cases (Drift.reportOf w.now outcomes).hasDrift <;> rfl

/-! ## Answers -/

theorem statusOf_inj {a b : Bool} : statusOf a = statusOf b ↔ a = b := by
  cases a <;> cases b <;> decide

theorem statusOf_ne_unusable (fine : Bool) : statusOf fine ≠ statusUnusable := by
  cases fine <;> decide

theorem statusOf_eq_fine_iff {fine : Bool} : statusOf fine = statusFine ↔ fine = true := by
  cases fine <;> decide

theorem storedSchemas_eq_ok_iff {registry : Schema.Registry} :
    storedSchemas s w = .ok registry ↔ HasSchemas s w registry := by
  simp only [storedSchemas, bind_eq_ok_iff, storedFiles_eq_ok_iff, HasSchemas]
  refine exists_congr fun r => and_congr_right fun _ => ?_
  cases (Schema.Registry.empty.loadAll r s.messageSchemasDirectory).failure <;> simp

theorem readPayload_eq_ok_iff {path : String} {v : Value} :
    readPayload w (Files.tidy path) = .ok (.ok v) ↔ HasPayload w path v := by
  simp only [readPayload, bind_eq_ok_iff, mapError_eq_ok_iff, HasPayload, exists_and_left]
  refine exists_congr fun octets => and_congr_right fun _ => exists_congr fun text =>
    and_congr_right fun _ => ?_
  split <;> simp_all [pure, Except.pure, throw, throwThe, MonadExceptOf.throw]

theorem reportOfChecks_eq_ok_iff {wsdlUrl messageSchemaUrl : Option String}
    {report : Drift.Report} :
    reportOfChecks s w wsdlUrl messageSchemaUrl = .ok report ↔
      HasReport s w wsdlUrl messageSchemaUrl report := by
  simp only [reportOfChecks, bind_eq_ok_iff, mapError_eq_ok_iff, storedFiles_eq_ok_iff,
    pure_eq_ok_iff, HasReport, exists_and_left]

/-- A command has the status of a verdict exactly if it answers with this verdict. -/
theorem outcome_eq_statusOf_iff {fine : Bool} :
    (execute s w c).outcome = .ok (statusOf fine) ↔ Answers s w c fine := by
  cases c with
  | driftCheck directory wsdlUrl messageSchemaUrl =>
    rw [execute, outcome_driftCheck]
    simp only [bind_eq_ok_iff, mapError_eq_ok_iff, reportOfChecks_eq_ok_iff, pure_eq_ok_iff,
      statusOf_inj, Answers, exists_and_left]
  | validateSoap envelope operation d strict =>
    rw [execute, outcome_validateSoap]
    simp only [bind_eq_ok_iff, mapError_eq_ok_iff, storedModel_eq_ok_iff, pure_eq_ok_iff,
      statusOf_inj, Answers, exists_and_left]
  | validateMessage schema payload =>
    rw [execute, outcome_validateMessage]
    simp only [bind_eq_ok_iff, storedSchemas_eq_ok_iff, Answers, exists_and_left]
    refine exists_congr fun registry => and_congr_right fun _ => ?_
    constructor
    · rintro ⟨parsed | v, hparsed, h⟩
      · exact absurd (pure_eq_ok_iff.mp h) (statusOf_ne_unusable fine)
      · simp only [bind_eq_ok_iff, mapError_eq_ok_iff, pure_eq_ok_iff, statusOf_inj] at h
        exact ⟨v, readPayload_eq_ok_iff.mp hparsed, h⟩
    · rintro ⟨v, hv, h⟩
      refine ⟨.ok v, readPayload_eq_ok_iff.mpr hv, ?_⟩
      simpa only [bind_eq_ok_iff, mapError_eq_ok_iff, pure_eq_ok_iff, statusOf_inj] using h
  | listOperations =>
    rw [execute, outcome_listOperations]
    simp only [bind_eq_ok_iff, storedModel_eq_ok_iff, pure_eq_ok_iff, statusOf_eq_fine_iff,
      Answers]
  | skeleton operation d =>
    rw [execute, outcome_skeleton]
    simp only [bind_eq_ok_iff, storedModel_eq_ok_iff, pure_eq_ok_iff, Answers]
    refine exists_congr fun m => ?_
    cases m.operation? operation <;> simp [statusOf_eq_fine_iff, statusOf_ne_unusable]

/-- A command that comes to a status comes to that of a verdict, or to that for errors. -/
theorem outcome_eq_ok {n : Nat} (h : (execute s w c).outcome = .ok n) :
    (∃ fine, n = statusOf fine) ∨ n = statusUnusable := by
  cases c with
  | driftCheck directory wsdlUrl messageSchemaUrl =>
    rw [execute, outcome_driftCheck] at h
    simp only [bind_eq_ok_iff, pure_eq_ok_iff] at h
    obtain ⟨report, -, _, -, rfl⟩ := h
    exact .inl ⟨_, rfl⟩
  | validateSoap envelope operation d strict =>
    rw [execute, outcome_validateSoap] at h
    simp only [bind_eq_ok_iff, pure_eq_ok_iff] at h
    obtain ⟨_, -, _, -, verdict, -, rfl⟩ := h
    exact .inl ⟨_, rfl⟩
  | validateMessage schema payload =>
    rw [execute, outcome_validateMessage] at h
    obtain ⟨registry, -, h⟩ := bind_eq_ok_iff.mp h
    obtain ⟨e | v, -, h⟩ := bind_eq_ok_iff.mp h
    -- a payload that is no JSON
    · exact .inr (pure_eq_ok_iff.mp h)
    · obtain ⟨verdict, -, h⟩ := bind_eq_ok_iff.mp h
      exact .inl ⟨_, pure_eq_ok_iff.mp h⟩
  | listOperations =>
    rw [execute, outcome_listOperations] at h
    obtain ⟨m, -, h⟩ := bind_eq_ok_iff.mp h
    exact .inl ⟨true, pure_eq_ok_iff.mp h⟩
  | skeleton operation d =>
    rw [execute, outcome_skeleton] at h
    obtain ⟨m, -, h⟩ := bind_eq_ok_iff.mp h
    rw [pure_eq_ok_iff] at h
    split at h
    · exact .inl ⟨true, h⟩
    · exact .inr h

theorem answers_unique {a b : Bool} (ha : Answers s w c a) (hb : Answers s w c b) : a = b := by
  have h := (outcome_eq_statusOf_iff.mpr ha).symm.trans (outcome_eq_statusOf_iff.mpr hb)
  exact statusOf_inj.mp (Except.ok.inj h)

/-- A command that lacks something has no answer. -/
theorem not_answers_of_fails (h : Fails s w c) (fine : Bool) : ¬ Answers s w c fine := by
  cases c with
  | driftCheck directory wsdlUrl messageSchemaUrl =>
    rintro ⟨report, files, hreport, hfiles, -⟩
    exact h report files hreport hfiles
  | validateSoap envelope operation d strict =>
    rintro ⟨m, octets, verdict, hm, hoctets, -⟩
    exact h.elim (· m hm) (· octets hoctets)
  | validateMessage schema payload =>
    rintro ⟨registry, v, verdict, hregistry, hv, -⟩
    exact h.elim (· registry hregistry) (· v hv)
  | listOperations =>
    rintro ⟨m, hm, -⟩
    exact h m hm
  | skeleton operation d =>
    rintro ⟨m, o, hm, -⟩
    exact h m hm

/-! ## Unfit inputs -/

theorem not_breaksOff_pure {α : Type} (a : α) : ¬ BreaksOff (pure a : Except Failure α) :=
  not_breaksOff_ok a

theorem isReported_path_iff {e : Files.PathError} :
    (Failure.path e).isReported = false ↔ e = .embeddedNull := by
  cases e <;> simp [Failure.isReported]

theorem breaksOff_open?_iff {written : String} :
    BreaksOff ((w.files.open? w.place written).mapError .path) ↔ '\x00' ∈ written.toList := by
  simp only [breaksOff_mapError_iff, isReported_path_iff, exists_eq_right,
    Files.Tree.open?_eq_embeddedNull_iff]

theorem breaksOff_validateIn_iff {m : Model} {strict : Bool} {octets : Octets}
    {operation : String} {d : Direction} :
    BreaksOff ((Soap.validateIn m strict octets operation d).mapError .envelope) ↔
      ∃ o, m.operation? operation = some o ∧ ¬ Soap.IsReadable octets := by
  rw [breaksOff_mapError_iff, ← Soap.exists_validateIn_error_iff m strict octets operation d]
  simp [Failure.isReported]

theorem breaksOff_validate_iff {registry : Schema.Registry} {schema : String} {v : Value} :
    BreaksOff ((registry.validate schema v).mapError .query) ↔
      ∃ stop, registry.validate schema v = .error (.stopped stop) := by
  rw [breaksOff_mapError_iff]
  constructor
  · rintro ⟨_ | stop, he, hreported⟩
    · cases hreported
    · exact ⟨stop, he⟩
  · rintro ⟨stop, he⟩
    exact ⟨_, he, rfl⟩

theorem breaksOff_readPayload_iff {path : String} :
    BreaksOff (readPayload w (Files.tidy path)) ↔ HasUnfitPayload w path := by
  simp only [readPayload, breaksOff_bind_iff, breaksOff_open?_iff, mapError_eq_ok_iff,
    HasUnfitPayload]
  refine or_congr_right (exists_congr fun octets => and_congr_right fun _ => or_congr ?_ ?_)
  · simp [breaksOff_mapError_iff, Failure.isReported]
  · refine exists_congr fun text => ?_
    rw [exists_and_left]
    refine and_congr_right fun _ => ?_
    cases Json.parseChars (Text.unifyEnds text.toList) with
    | ok v => simp [not_breaksOff_pure]
    | error e =>
      -- of the failures of JSON only that of long numbers is not caught
      cases e with
      | tooManyDigits n => exact iff_of_true ⟨_, rfl, rfl⟩ ⟨n, rfl⟩
      | malformed f place => simp [not_breaksOff_pure]
      | undecodable e => simp [not_breaksOff_pure]

theorem isReported_schema_iff {r : Files.Reader} {directory : String} {e : Schema.LoadError}
    (h : (Schema.Registry.empty.loadAll r directory).failure = some e) :
    (Failure.schema e).isReported = false ↔ IsUnfitSchema e := by
  constructor
  · intro hreported
    cases e with
    | tooManyDigits e => exact .tooManyDigits e
    | stopped stop => exact .stopped stop
    | unreadable e =>
      rcases isReported_file_iff.mp hreported with ⟨written, root, rfl⟩ | rfl | ⟨p, rfl⟩
      · exact .escapes written root
      · exact .embeddedNull
      · exact absurd rfl (Schema.Registry.failure_loadAll_ne_pattern h p)
    | _ => cases hreported
  · rintro (_ | _ | _ | _) <;> rfl

theorem breaksOff_storedSchemas_iff :
    BreaksOff (storedSchemas s w) ↔ '\x00' ∈ s.contractsRoot.toList ∨ HasUnfitSchema s w := by
  simp only [storedSchemas, breaksOff_bind_iff, breaksOff_storedFiles_iff, storedFiles_eq_ok_iff,
    HasUnfitSchema, exists_and_left]
  refine or_congr_right (exists_congr fun r => and_congr_right fun _ => ?_)
  cases hfailure : (Schema.Registry.empty.loadAll r s.messageSchemasDirectory).failure with
  | none => simp [not_breaksOff_ok]
  | some e =>
    simp only [Option.some.injEq, exists_eq_left']
    rw [← isReported_schema_iff hfailure]
    exact ⟨fun ⟨_, he, h⟩ => by cases he; exact h, fun h => ⟨_, rfl, h⟩⟩

theorem breaksOff_reportOfChecks_iff {wsdlUrl messageSchemaUrl : Option String} :
    BreaksOff (reportOfChecks s w wsdlUrl messageSchemaUrl) ↔ '\x00' ∈ s.contractsRoot.toList := by
  simp only [reportOfChecks, breaksOff_bind_iff, breaksOff_storedFiles_iff, breaksOff_mapError_iff,
    not_breaksOff_pure, and_false, exists_false, or_false]
  refine or_iff_left ?_
  -- a run of checks fails only where a path is too long, which is reported
  rintro ⟨r, -, e, he, hreported⟩
  obtain ⟨_, _, p, -, -, rfl⟩ := Drift.run_of_error_cases he
  cases hreported

/-- A command is broken off exactly by an input that is unfit. -/
theorem breaksOff_outcome_iff : BreaksOff (execute s w c).outcome ↔ Unfit s w c := by
  cases c with
  | driftCheck directory wsdlUrl messageSchemaUrl =>
    rw [execute, outcome_driftCheck]
    simp only [breaksOff_bind_iff, breaksOff_reportOfChecks_iff, reportOfChecks_eq_ok_iff,
      breaksOff_mapError_iff, isReported_path_iff, not_breaksOff_pure, Unfit, and_false,
      exists_false, or_false, exists_eq_right]
  | validateSoap envelope operation d strict =>
    rw [execute, outcome_validateSoap]
    simp only [breaksOff_bind_iff, breaksOff_storedModel_iff, storedModel_eq_ok_iff,
      breaksOff_open?_iff, breaksOff_validateIn_iff, not_breaksOff_pure, mapError_eq_ok_iff, Unfit,
      and_false, exists_false, or_false, or_assoc, exists_and_left]
  | validateMessage schema payload =>
    rw [execute, outcome_validateMessage]
    simp only [breaksOff_bind_iff, breaksOff_storedSchemas_iff, storedSchemas_eq_ok_iff,
      breaksOff_readPayload_iff, Unfit, or_assoc]
    refine or_congr_right (or_congr_right (exists_congr fun registry => and_congr_right fun _ =>
      or_congr_right ?_))
    constructor
    -- a payload that is no JSON is reported
    · rintro ⟨e | v, hparsed, h⟩
      · exact absurd h (not_breaksOff_pure _)
      · simp only [breaksOff_bind_iff, breaksOff_validate_iff, not_breaksOff_pure, and_false,
          exists_false, or_false] at h
        obtain ⟨stop, hstop⟩ := h
        exact ⟨v, stop, readPayload_eq_ok_iff.mp hparsed, hstop⟩
    · rintro ⟨v, stop, hv, hstop⟩
      refine ⟨.ok v, readPayload_eq_ok_iff.mpr hv, breaksOff_bind_iff.mpr (.inl ?_)⟩
      exact breaksOff_validate_iff.mpr ⟨stop, hstop⟩
  | listOperations =>
    rw [execute, outcome_listOperations]
    simp only [breaksOff_bind_iff, breaksOff_storedModel_iff, not_breaksOff_pure, Unfit, and_false,
      exists_false, or_false]
  | skeleton operation d =>
    rw [execute, outcome_skeleton]
    simp only [breaksOff_bind_iff, breaksOff_storedModel_iff, not_breaksOff_pure, Unfit, and_false,
      exists_false, or_false]

end ContractDrift.CommandLine
