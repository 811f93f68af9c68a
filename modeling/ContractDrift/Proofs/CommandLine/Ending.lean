/-
How a run of the program ends.

A run reads its settings and does what its command asks for.  `run_ends` says that a run whose
inputs are fit ends with one of three statuses, by what it has found, and `exists_brokenOff_iff`
that no other run is broken off than one with an unfit input.
-/
import ContractDrift.Proofs.CommandLine.Commands

namespace ContractDrift.CommandLine

open ContractDrift.Text (Octets)
open ContractDrift.Wsdl (Direction Model)

variable {s : Settings} {w : Surroundings} {c : Command}

/-! ## Runs -/

/-- The file of settings is no text, or the command comes to an input that is unfit. -/
def HasUnfitInput (w : Surroundings) (c : Command) : Prop :=
  (∃ e, Settings.fileText w.files w.place = .error e) ∨
    ∃ s, Settings.load w.files w.place w.environment [] = .ok s ∧ Unfit s w c

/-- How a run ends whose inputs are fit: it returns with one of three statuses, that for errors if
the settings are wrong or something that the command needs cannot be located, read, decoded or
parsed, and else that of its verdict. -/
structure Ends (w : Surroundings) (c : Command) (ending : Ending) : Prop where
  returns : ∀ e, ending ≠ .brokenOff e
  bounded : ending.exitStatus ∈ [statusFine, statusFailed, statusUnusable]
  misconfigured : (∀ s, Settings.load w.files w.place w.environment [] ≠ .ok s) →
    ending.exitStatus = statusUnusable
  unusable : ∀ s, Settings.load w.files w.place w.environment [] = .ok s → Fails s w c →
    ending.exitStatus = statusUnusable
  answers : ∀ s fine, Settings.load w.files w.place w.environment [] = .ok s →
    (ending.exitStatus = statusOf fine ↔ Answers s w c fine)

theorem ending_session (a : Activity) (w : Surroundings) (command : String) (least : Log.Level) :
    (a.session w command least).ending = match a.outcome with
      | .ok n => .status n
      | .error e => if e.isReported then .status statusUnusable else .brokenOff e := by
  rw [Activity.session]
  cases a.outcome with
  | ok n => rfl
  | error e => cases h : e.isReported <;> simp [h]

/-- The ending of a command whose inputs are fit: the status of its verdict if it has one, and else
that for errors. -/
theorem ending_execute (h : ¬ Unfit s w c) (command : String) (least : Log.Level) :
    let ending := ((execute s w c).session w command least).ending
    (∃ fine, Answers s w c fine ∧ ending = .status (statusOf fine)) ∨
      (∀ fine, ¬ Answers s w c fine) ∧ ending = .status statusUnusable := by
  rw [ending_session]
  -- what is caught and what is unusable end alike, and neither is an answer
  cases houtcome : (execute s w c).outcome with
  | ok n =>
    rcases outcome_eq_ok houtcome with ⟨fine, rfl⟩ | rfl
    · exact .inl ⟨fine, outcome_eq_statusOf_iff.mp houtcome, rfl⟩
    · refine .inr ⟨fun fine hanswers => ?_, rfl⟩
      rw [outcome_eq_statusOf_iff.mpr hanswers, Except.ok.injEq] at houtcome
      exact statusOf_ne_unusable fine houtcome
  | error e =>
    have hreported : e.isReported = true := by
      cases hreported : e.isReported with
      | true => rfl
      | false => exact absurd (breaksOff_outcome_iff.mp ⟨e, houtcome, hreported⟩) h
    refine .inr ⟨fun fine hanswers => ?_, by simp only [hreported, if_true]⟩
    rw [outcome_eq_statusOf_iff.mpr hanswers] at houtcome
    cases houtcome

theorem load_eq_undecodable_iff {e : Text.DecodeError} :
    Settings.load w.files w.place w.environment [] = .error (.undecodable e) ↔
      Settings.fileText w.files w.place = .error e := by
  simp only [Settings.load, bind_eq_error_iff, mapError_eq_error_iff]
  constructor
  · rintro (⟨e', he, h⟩ | ⟨_, -, _, -, h⟩)
    · cases h
      exact he
    · cases h
  · exact fun he => .inl ⟨e, he, rfl⟩

theorem ending_run {arguments : List String} {i : Invocation}
    (hparse : Invocation.parse arguments = .ok i) :
    (run w arguments).ending = match Settings.load w.files w.place w.environment [] with
      | .error (.undecodable e) => .brokenOff (.undecodable e)
      | .error (.invalid _) => .misconfigured
      | .ok s => ((execute s w i.command).session w i.command.name
          (i.logLevel.getD s.logLevel)).ending := by
  rw [run, hparse]
  cases Settings.load w.files w.place w.environment [] with
  | error e => cases e <;> rfl
  | ok s => rfl

/-- A run is broken off exactly by an input that is unfit. -/
theorem exists_brokenOff_iff {arguments : List String} {i : Invocation}
    (hparse : Invocation.parse arguments = .ok i) :
    (∃ e, (run w arguments).ending = .brokenOff e) ↔ HasUnfitInput w i.command := by
  rw [ending_run hparse, HasUnfitInput]
  simp only [← load_eq_undecodable_iff]
  cases Settings.load w.files w.place w.environment [] with
  | error e => cases e <;> simp
  | ok s =>
    simp only [ending_session, reduceCtorEq, exists_false, false_or, Except.ok.injEq,
      exists_eq_left', ← breaksOff_outcome_iff, BreaksOff]
    cases (execute s w i.command).outcome with
    | ok n => simp
    | error e => cases h : e.isReported <;> simp [h]

theorem ends_of_load {ending : Ending}
    (hload : Settings.load w.files w.place w.environment [] = .ok s)
    (h : (∃ fine, Answers s w c fine ∧ ending = .status (statusOf fine)) ∨
      (∀ fine, ¬ Answers s w c fine) ∧ ending = .status statusUnusable) :
    Ends w c ending := by
  -- the settings are those that have been loaded, so their answers decide
  have hunique {s' : Settings} (hs : Settings.load w.files w.place w.environment [] = .ok s') :
      s = s' := Except.ok.inj (hload.symm.trans hs)
  rcases h with ⟨found, hfound, rfl⟩ | ⟨hnone, rfl⟩
  · refine ⟨fun e h => (by cases h), ?_, fun h => absurd hload (h s), fun s' hs hfails => ?_,
      fun s' fine hs => ?_⟩
    · cases found <;> decide
    · exact absurd (hunique hs ▸ hfound) (not_answers_of_fails hfails found)
    · obtain rfl := hunique hs
      rw [Ending.exitStatus, statusOf_inj]
      exact ⟨fun h => h ▸ hfound, fun h => answers_unique hfound h⟩
  · refine ⟨fun e h => (by cases h), by decide, fun h => absurd hload (h s), fun _ _ _ => rfl,
      fun s' fine hs => ?_⟩
    obtain rfl := hunique hs
    exact iff_of_false (statusOf_ne_unusable fine).symm (hnone fine)

/-- An envelope without a body, be it well-formed or not, is out of order. -/
theorem answers_of_not_hasBody {m : Model} {octets : Octets} {o : Wsdl.Operation}
    {envelope operation : String} {d : Direction} (hm : HasModel s w m)
    (ho : m.operation? operation = some o)
    (hopen : w.files.open? w.place (Files.tidy envelope) = .ok octets)
    (hreadable : Soap.IsReadable octets) (hbody : ∀ body, ¬ Soap.HasBody octets body)
    (strict : Bool) : Answers s w (.validateSoap envelope operation d strict) false :=
  ⟨m, octets, _, hm, hopen, Soap.validateIn_of_not_hasBody ho hreadable hbody _, rfl⟩

/-- A description of one operation and an envelope that ends after its first character. -/
def cutEnvelope : Surroundings where
  files := ⟨[(["srv", "orders.wsdl"],
      .file (Text.utf8 "<d><binding><operation name='Place'/></binding></d>")),
    (["srv", "order.xml"], .file (Text.utf8 "<"))]⟩
  place := ["srv"]
  environment := [("SENTINEL_WSDL_PATH", some "orders.wsdl")]
  network := fun _ => .problem ⟨"ConnectError", "the network is out of reach"⟩
  now := default
  clock := ""

theorem load_cutEnvelope : ∃ s, Settings.load cutEnvelope.files cutEnvelope.place
    cutEnvelope.environment [] = .ok s ∧ s.contractsRoot = "." ∧ s.wsdlPath = "orders.wsdl" := by
  have h : (match Settings.load cutEnvelope.files cutEnvelope.place cutEnvelope.environment [] with
      | .ok s => s.contractsRoot == "." && s.wsdlPath == "orders.wsdl"
      | .error _ => false) = true := by decide +kernel
  split at h
  · rename_i s hs
    simp only [Bool.and_eq_true, beq_iff_eq] at h
    exact ⟨s, hs, h.1, h.2⟩
  · cases h

theorem parse_cutEnvelope :
    ∃ e, Xml.Node.parse (Text.utf8 "<") = .error e ∧ e.isOfContent = true := by
  have h : Xml.Node.parse (Text.utf8 "<") =
      .error (.unreadable (.malformed .unclosedToken 1 0)) := by decide +kernel
  exact ⟨_, h, rfl⟩

theorem hasModel_cutEnvelope {s : Settings} (hroot : s.contractsRoot = ".")
    (hpath : s.wsdlPath = "orders.wsdl") :
    ∃ m o, HasModel s cutEnvelope m ∧ m.operation? "Place" = some o := by
  let description := Text.utf8 "<d><binding><operation name='Place'/></binding></d>"
  have hopen : HasFiles s cutEnvelope ⟨cutEnvelope.files, ["srv"]⟩ := by
    rw [HasFiles, hroot]
    rfl
  have hread : Files.Reader.read ⟨cutEnvelope.files, ["srv"]⟩ s.wsdlPath = .ok description := by
    rw [hpath]
    decide +kernel
  have hmodel : (Model.load description).map (fun m => (m.operation? "Place").isSome) =
      .ok true := by decide +kernel
  cases hm : Model.load description with
  | error e =>
    rw [hm] at hmodel
    cases hmodel
  | ok m =>
    rw [hm] at hmodel
    obtain ⟨o, ho⟩ := Option.isSome_iff_exists.mp (Except.ok.inj hmodel)
    exact ⟨m, o, ⟨_, description, hopen, hread, hm⟩, ho⟩

/-- The arguments that ask for a check of an envelope. -/
def checkEnvelope : List String := ["validate-soap", "order.xml", "--operation", "Place"]

/-- The envelope is not well-formed, which is found to be out of order. -/
theorem ending_cutEnvelope : (run cutEnvelope checkEnvelope).ending = .status statusFailed := by
  obtain ⟨s, hload, hroot, hpath⟩ := load_cutEnvelope
  obtain ⟨m, o, hm, ho⟩ := hasModel_cutEnvelope hroot hpath
  obtain ⟨e, he, hcontent⟩ := parse_cutEnvelope
  have hreadable : Soap.IsReadable (Text.utf8 "<") := by
    intro e' he'
    rw [he] at he'
    cases he'
    exact hcontent
  have hbody (body : Xml.Node) : ¬ Soap.HasBody (Text.utf8 "<") body := by
    rintro ⟨envelope, hparse, -⟩
    rw [he] at hparse
    cases hparse
  have hopen : cutEnvelope.files.open? cutEnvelope.place (Files.tidy "order.xml") =
      .ok (Text.utf8 "<") := by decide +kernel
  have hanswers := answers_of_not_hasBody (d := .input) hm ho hopen hreadable hbody false
  rw [ending_run (i := ⟨none, .validateSoap "order.xml" "Place" .input false⟩) rfl, hload]
  simp only [ending_session, outcome_eq_statusOf_iff.mpr hanswers]
  rfl

end ContractDrift.CommandLine
