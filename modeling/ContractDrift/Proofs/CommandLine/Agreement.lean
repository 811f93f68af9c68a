/-
A run says what the checks have found.

The status of a run that returns, the report that it saves and what it prints are put together on
different ways from what the checks answer.  `run_agrees` says that they all agree with it
(`Agrees`): a status of 0 or 1 is the verdict on the envelope or the document, or whether a
result in the saved file has drifted, and in every other case the status is 2 and nothing is saved.

Design notes: which checks are made is said without the function that puts them together
(`Overrides`), and what is saved is read from the file that is written (`SavesResults`).
-/
import ContractDrift.Proofs.CommandLine.Ending
import ContractDrift.Proofs.CommandLine.SavedReport

namespace ContractDrift.CommandLine

open ContractDrift.Wsdl (Direction Model)

variable {s : Settings} {w : Surroundings} {c : Command}
  {directory wsdlUrl messageSchemaUrl : Option String}

/-! ## Checks -/

/-- The address that is given for the contracts of a family. -/
def givenFor (wsdlUrl messageSchemaUrl : Option String) : Drift.Family → Option String
  | .wsdl => wsdlUrl
  | .message => messageSchemaUrl

/-- A check in a run: an address that is given for its family, and is not empty, takes the place of
its live address; nothing else of it changes. -/
structure Overrides (wsdlUrl messageSchemaUrl : Option String) (c c' : Drift.Check) : Prop where
  same : { c' with liveUrl := c.liveUrl } = c
  given : ∀ url, givenFor wsdlUrl messageSchemaUrl c.family = some url → url ≠ "" →
    c'.liveUrl = some url
  kept : (∀ url, givenFor wsdlUrl messageSchemaUrl c.family = some url → url = "") →
    c'.liveUrl = c.liveUrl

theorem overrides_of_given {c : Drift.Check} {given : Option String}
    (h : givenFor wsdlUrl messageSchemaUrl c.family = given) :
    Overrides wsdlUrl messageSchemaUrl c (match given.filter (· ≠ "") with
      | some url => { c with liveUrl := some url }
      | none => c) := by
  cases given with
  | none => exact ⟨rfl, fun url hurl => by simp [h] at hurl, fun _ => rfl⟩
  | some own =>
    by_cases hempty : own = ""
    · subst hempty
      refine ⟨rfl, fun url hurl hne => ?_, fun _ => rfl⟩
      exact absurd (Option.some.inj (h.symm.trans hurl)).symm hne
    · rw [Option.filter_some, if_pos (by simpa using hempty)]
      refine ⟨rfl, fun url hurl _ => ?_, fun hkept => absurd (hkept own h) hempty⟩
      exact h.symm.trans hurl

theorem overrides_checksOf (s : Settings) (wsdlUrl messageSchemaUrl : Option String) :
    List.Forall₂ (Overrides wsdlUrl messageSchemaUrl) s.checks
      (checksOf s wsdlUrl messageSchemaUrl) := by
  rw [checksOf, List.forall₂_map_right_iff, List.forall₂_same]
  exact fun c _ => overrides_of_given rfl

/-! ## What a command saves -/

theorem saved_withStoredModel {command : List Log.Note → Model → Activity}
    (h : ∀ notes m, (command notes m).saved = none) :
    (withStoredModel s w command).saved = none := by
  rw [withStoredModel]
  cases storedModel s w with
  | error e => rfl
  | ok m => exact h _ m

theorem saved_validateLoaded (notes : List Log.Note) (registry : Schema.Registry)
    (schema path : String) : (validateLoaded w notes registry schema path).saved = none := by
  rw [validateLoaded]
  repeat' split
  all_goals rfl

/-- A command saves a report only if it makes the checks for drift. -/
theorem exists_driftCheck_of_saved {saved : Saved} (h : (execute s w c).saved = some saved) :
    ∃ directory wsdlUrl messageSchemaUrl, c = .driftCheck directory wsdlUrl messageSchemaUrl := by
  -- the other commands write no report, whichever way they end
  cases c with
  | driftCheck directory wsdlUrl messageSchemaUrl => exact ⟨_, _, _, rfl⟩
  | validateSoap envelope operation d strict =>
    refine nomatch h.symm.trans (saved_withStoredModel fun notes m => ?_)
    cases w.files.open? w.place (Files.tidy envelope) with
    | error e => rfl
    | ok octets =>
      dsimp only
      split <;> rfl
  | validateMessage schema payload =>
    refine nomatch h.symm.trans (?_ : _ = none)
    rw [execute, validateMessage]
    cases storedFiles s w with
    | error e => rfl
    | ok r =>
      dsimp only
      split
      · rfl
      · exact saved_validateLoaded _ _ _ _
  | listOperations => exact nomatch h.symm.trans (saved_withStoredModel fun notes m => rfl)
  | skeleton operation d =>
    refine nomatch h.symm.trans (saved_withStoredModel fun notes m => ?_)
    repeat' split
    all_goals rfl

/-- The report that the checks for drift save. -/
def reportSaved (s : Settings) (w : Surroundings)
    (directory wsdlUrl messageSchemaUrl : Option String) : Except Failure Drift.Report := do
  let report ← reportOfChecks s w wsdlUrl messageSchemaUrl
  let _ ← (withReport w.files w.place (reportDirectoryOf s directory) report).mapError .path
  return report

theorem reportSaved_eq_ok_iff {report : Drift.Report} :
    reportSaved s w directory wsdlUrl messageSchemaUrl = .ok report ↔
      HasReport s w wsdlUrl messageSchemaUrl report ∧
        ∃ after, withReport w.files w.place (reportDirectoryOf s directory) report = .ok after := by
  simp only [reportSaved, bind_eq_ok_iff, mapError_eq_ok_iff, reportOfChecks_eq_ok_iff,
    pure_eq_ok_iff]
  constructor
  · rintro ⟨_, hreport, after, hafter, rfl⟩
    exact ⟨hreport, after, hafter⟩
  · rintro ⟨hreport, after, hafter⟩
    exact ⟨report, hreport, after, hafter, rfl⟩

theorem saved_driftCheck : (driftCheck s w directory wsdlUrl messageSchemaUrl).saved =
    match reportSaved s w directory wsdlUrl messageSchemaUrl with
    | .ok report => some ⟨Files.resolve w.place (reportDirectoryOf s directory), report⟩
    | .error _ => none := by
  rw [driftCheck, reportSaved, reportOfChecks]
  cases storedFiles s w with
  | error e => rfl
  | ok r =>
    simp only [bind, Except.bind]
    cases Drift.run (fun _ => Drift.Access.of r w.network)
      (checksOf s wsdlUrl messageSchemaUrl) with
    | error e => rfl
    | ok outcomes =>
      simp only [Except.mapError, saveReport, pure, Except.pure]
      cases withReport w.files w.place (reportDirectoryOf s directory)
        (Drift.reportOf w.now outcomes) with
      | error e => rfl
      | ok files =>
        dsimp only
        -- the report is saved before the status is told, so its kind does not matter
        split <;> rfl

/-- What the checks for drift save is the report that they have made and written. -/
theorem saved_driftCheck_iff {saved : Saved} :
    (driftCheck s w directory wsdlUrl messageSchemaUrl).saved = some saved ↔
      ∃ report, reportSaved s w directory wsdlUrl messageSchemaUrl = .ok report ∧
        ⟨Files.resolve w.place (reportDirectoryOf s directory), report⟩ = saved := by
  rw [saved_driftCheck]
  cases reportSaved s w directory wsdlUrl messageSchemaUrl <;> simp

/-! ## Agreement -/

theorem length_results {report : Drift.Report}
    (h : HasReport s w wsdlUrl messageSchemaUrl report) : report.results.length = 2 := by
  obtain ⟨r, outcomes, -, hrun, rfl⟩ := h
  have hlength := (Drift.runFrom_eq_ok_iff.mp hrun).1
  rw [Drift.reportOf, Drift.Report.ofResults, List.length_map, hlength, checksOf, List.length_map]
  rfl

/-- What a run saves: the results of the checks of the settings, each with the address that is
given for its family, in a file that records them.  The run fails exactly if a result in this file
has drifted, which its number of these tells. -/
structure SavesResults (s : Settings) (w : Surroundings)
    (directory wsdlUrl messageSchemaUrl : Option String) (report : Drift.Report)
    (ending : Ending) : Prop where
  results : ∃ r checks outcomes, HasFiles s w r ∧
    List.Forall₂ (Overrides wsdlUrl messageSchemaUrl) s.checks checks ∧
    Drift.run (fun _ => Drift.Access.of r w.network) checks = .ok outcomes ∧
    report.results = outcomes.map (·.result)
  written : ∃ after octets v, ∃ drifted : Nat,
    withReport w.files w.place (reportDirectoryOf s directory) report = .ok after ∧
    after.open? w.place (Files.join (reportDirectoryOf s directory) report.fileName) =
      .ok octets ∧
    Json.parseOctets octets = .ok v ∧ Drift.Records v report ∧
    (v.get? "summary").bind (·.get? "drifted") = some (.int drifted) ∧
    (ending = .status 1 ↔ 0 < drifted)
  failed : ending = .status 1 ↔ ∃ x ∈ report.results, x.drifted = true
  fine : ending = .status 0 ↔ ∀ x ∈ report.results, x.drifted = false

/-- The session of a command agrees with what the checks answer. -/
structure Agrees (s : Settings) (w : Surroundings) (c : Command) (session : Session) : Prop where
  validateSoap : ∀ envelope operation d strict m octets verdict,
    c = .validateSoap envelope operation d strict → HasModel s w m →
    w.files.open? w.place (Files.tidy envelope) = .ok octets →
    Soap.validateIn m (strict || s.strictSoap) octets operation d = .ok verdict →
    session.ending = .status (if verdict.valid then 0 else 1)
  validateMessage : ∀ schema payload registry v verdict, c = .validateMessage schema payload →
    HasSchemas s w registry → HasPayload w payload v → registry.validate schema v = .ok verdict →
    session.ending = .status (if verdict.isValid then 0 else 1)
  driftCheck : ∀ directory wsdlUrl messageSchemaUrl saved,
    c = .driftCheck directory wsdlUrl messageSchemaUrl → session.saved = some saved →
    SavesResults s w directory wsdlUrl messageSchemaUrl saved.report session.ending
  listOperations : ∀ m, c = .listOperations → HasModel s w m → session.ending = .status 0
  skeleton : ∀ operation d m o, c = .skeleton operation d → HasModel s w m →
    m.operation? operation = some o → session.ending = .status 0 ∧
    ∃ text, Soap.buildIn o d [] Soap.defaultNamespace = .ok text ∧
      session.output.getLast? = some text
  otherwise : (∀ fine, ¬ Answers s w c fine) → session.ending = .status 2 ∧ session.saved = none
  saves : ∀ saved, session.saved = some saved →
    ∃ directory wsdlUrl messageSchemaUrl, c = .driftCheck directory wsdlUrl messageSchemaUrl
  unsaved : ∀ directory wsdlUrl messageSchemaUrl,
    c = .driftCheck directory wsdlUrl messageSchemaUrl → session.saved = none →
    session.ending = .status 2

theorem saved_session (a : Activity) (w : Surroundings) (command : String) (least : Log.Level) :
    (a.session w command least).saved = a.saved := by
  rw [Activity.session]
  cases a.outcome with
  | ok n => rfl
  | error e => cases h : e.isReported <;> simp [h]

/-- A command that returns ends with the status of its answer, or with that for errors. -/
theorem ending_of_answers {command : String} {least : Log.Level} {fine : Bool}
    (h : Answers s w c fine) :
    ((execute s w c).session w command least).ending = .status (statusOf fine) := by
  rw [ending_session, outcome_eq_statusOf_iff.mpr h]

theorem savesResults {command : String} {least : Log.Level} {report : Drift.Report}
    (h : reportSaved s w directory wsdlUrl messageSchemaUrl = .ok report) :
    SavesResults s w directory wsdlUrl messageSchemaUrl report
      ((execute s w (.driftCheck directory wsdlUrl messageSchemaUrl)).session w command
        least).ending := by
  obtain ⟨hreport, after, hafter⟩ := reportSaved_eq_ok_iff.mp h
  have hanswers : Answers s w (.driftCheck directory wsdlUrl messageSchemaUrl)
      (!report.hasDrift) := ⟨report, after, hreport, hafter, rfl⟩
  rw [ending_of_answers hanswers]
  have hstatus : Ending.status (statusOf (!report.hasDrift)) = .status 1 ↔
      report.hasDrift = true := by
    cases report.hasDrift <;> simp [statusOf, statusFine, statusFailed]
  refine ⟨?_, ?_, hstatus.trans List.any_eq_true, ?_⟩
  · obtain ⟨r, outcomes, hfiles, hrun, rfl⟩ := hreport
    exact ⟨r, _, outcomes, hfiles, overrides_checksOf s _ _, hrun, rfl⟩
  -- a run makes two checks, and their number has few digits
  · have hsize : report.results.length < 10 ^ Json.digitLimit := by
      rw [length_results hreport]
      exact Nat.lt_of_lt_of_le (by decide : 2 < 10 ^ 1) (Nat.pow_le_pow_right (by decide)
        (by decide))
    exact ⟨after, _, report.toJson, report.summary.drifted, hafter, open?_of_withReport hafter,
      Drift.parseOctets_fileText hsize, Drift.records_toJson report, rfl,
      hstatus.trans (Drift.hasDrift_iff report)⟩
  · have hclean : report.hasDrift = false ↔ ∀ x ∈ report.results, x.drifted = false := by
      simp [Drift.Report.hasDrift]
    rw [← hclean]
    cases report.hasDrift <;> simp [statusOf, statusFine, statusFailed]

theorem execute_skeleton {operation : String} {d : Direction} {m : Model} {o : Wsdl.Operation}
    {text : String} (hm : HasModel s w m) (ho : m.operation? operation = some o)
    (htext : Soap.buildIn o d [] Soap.defaultNamespace = .ok text) :
    execute s w (.skeleton operation d) = .prints (storedModelNotes s w) [text] statusFine := by
  rw [execute, skeleton, withStoredModel, storedModel_eq_ok_iff.mpr hm]
  simp only [ho, htext]

/-- What a skeleton prints is the envelope that is built. -/
theorem output_skeleton {command : String} {least : Log.Level} {operation : String}
    {d : Direction} {m : Model} {o : Wsdl.Operation} {text : String} (hm : HasModel s w m)
    (ho : m.operation? operation = some o)
    (htext : Soap.buildIn o d [] Soap.defaultNamespace = .ok text) :
    ((execute s w (.skeleton operation d)).session w command least).output.getLast? =
      some text := by
  rw [execute_skeleton hm ho htext]
  exact List.getLast?_concat

/-- The checks for drift answer exactly if they save their report. -/
theorem exists_answers_driftCheck_iff :
    (∃ fine, Answers s w (.driftCheck directory wsdlUrl messageSchemaUrl) fine) ↔
      ∃ saved, (driftCheck s w directory wsdlUrl messageSchemaUrl).saved = some saved := by
  simp only [saved_driftCheck_iff, reportSaved_eq_ok_iff]
  constructor
  · rintro ⟨_, report, after, hreport, hafter, -⟩
    exact ⟨_, report, ⟨hreport, after, hafter⟩, rfl⟩
  · rintro ⟨_, report, ⟨hreport, after, hafter⟩, -⟩
    exact ⟨_, report, after, hreport, hafter, rfl⟩

theorem not_unfit_of_returns {command : String} {least : Log.Level}
    (h : ∀ e, ((execute s w c).session w command least).ending ≠ .brokenOff e) : ¬ Unfit s w c := by
  intro hunfit
  obtain ⟨e, he, hreported⟩ := breaksOff_outcome_iff.mpr hunfit
  refine h e ?_
  rw [ending_session, he]
  simp only [hreported, Bool.false_eq_true, if_false]

/-- A command that is not broken off agrees with what the checks answer. -/
theorem execute_agrees (s : Settings) {w : Surroundings} {c : Command} {command : String}
    {least : Log.Level}
    (h : ∀ e, ((execute s w c).session w command least).ending ≠ .brokenOff e) :
    Agrees s w c ((execute s w c).session w command least) := by
  -- a command that does not break off and has no answer ends as unusable
  have hunusable (hnone : ∀ fine, ¬ Answers s w c fine) :
      ((execute s w c).session w command least).ending = .status 2 := by
    rcases ending_execute (not_unfit_of_returns h) command least with
      ⟨fine, hfine, -⟩ | ⟨-, hending⟩
    · exact absurd hfine (hnone fine)
    · exact hending
  constructor
  case validateSoap =>
    rintro envelope operation d strict m octets verdict rfl hm hoctets hverdict
    have hanswers : Answers s w (.validateSoap envelope operation d strict) verdict.valid :=
      ⟨m, octets, verdict, hm, hoctets, hverdict, rfl⟩
    exact ending_of_answers hanswers
  case validateMessage =>
    rintro schema payload registry v verdict rfl hregistry hv hverdict
    have hanswers : Answers s w (.validateMessage schema payload) verdict.isValid :=
      ⟨registry, v, verdict, hregistry, hv, hverdict, rfl⟩
    exact ending_of_answers hanswers
  case driftCheck =>
    rintro directory wsdlUrl messageSchemaUrl saved rfl hsaved
    rw [saved_session] at hsaved
    obtain ⟨report, hreport, rfl⟩ := saved_driftCheck_iff.mp hsaved
    exact savesResults hreport
  case listOperations =>
    rintro m rfl hm
    have hanswers : Answers s w .listOperations true := ⟨m, hm, rfl⟩
    exact ending_of_answers hanswers
  case skeleton =>
    rintro operation d m o rfl hm ho
    have huri : Soap.defaultNamespace ≠ "" := by decide
    obtain ⟨text, htext⟩ := Soap.exists_buildIn o d [] huri
    have hanswers : Answers s w (.skeleton operation d) true := ⟨m, o, hm, ho, rfl⟩
    exact ⟨ending_of_answers hanswers, text, htext, output_skeleton hm ho htext⟩
  case otherwise =>
    intro hnone
    refine ⟨hunusable hnone, ?_⟩
    rw [saved_session, Option.eq_none_iff_forall_ne_some]
    intro saved hsaved
    obtain ⟨directory, wsdlUrl, messageSchemaUrl, rfl⟩ := exists_driftCheck_of_saved hsaved
    obtain ⟨fine, hfine⟩ := exists_answers_driftCheck_iff.mpr ⟨saved, hsaved⟩
    exact hnone fine hfine
  case saves =>
    intro saved hsaved
    rw [saved_session] at hsaved
    exact exists_driftCheck_of_saved hsaved
  case unsaved =>
    rintro directory wsdlUrl messageSchemaUrl rfl hsaved
    refine hunusable fun fine hfine => ?_
    obtain ⟨saved, h⟩ := exists_answers_driftCheck_iff.mp ⟨fine, hfine⟩
    rw [saved_session] at hsaved
    exact nomatch hsaved.symm.trans h

/-- A run that returns agrees with what the checks answer; with settings that do not fit it has the
status for errors and saves nothing. -/
theorem run_agrees {w : Surroundings} {arguments : List String} {i : Invocation}
    (hparse : Invocation.parse arguments = .ok i)
    (hreturns : ∀ e, (run w arguments).ending ≠ .brokenOff e) :
    (∀ s, Settings.load w.files w.place w.environment [] = .ok s →
      Agrees s w i.command (run w arguments)) ∧
    ((∀ s, Settings.load w.files w.place w.environment [] ≠ .ok s) →
      (run w arguments).ending.exitStatus = 2 ∧ (run w arguments).saved = none) := by
  -- without settings no command is executed, and with them one is
  unfold run at hreturns ⊢
  rw [hparse] at hreturns ⊢
  dsimp only at hreturns ⊢
  constructor
  · intro s hload
    rw [hload] at hreturns ⊢
    exact execute_agrees s hreturns
  · intro hnone
    split at hreturns
    · exact absurd rfl (hreturns _)
    · exact ⟨rfl, rfl⟩
    · rename_i s hload
      exact absurd hload (hnone s)

/-- A stored description with two operations, of which the live one lacks the second. -/
def lostOperation : Surroundings where
  files := ⟨[(["srv", "orders.wsdl"], .file (Text.utf8
    "<d><binding><operation name='Place'/><operation name='Cancel'/></binding></d>"))]⟩
  place := ["srv"]
  environment := [("SENTINEL_WSDL_PATH", some "orders.wsdl")]
  network := Http.Network.ofExchanges [("http://live/orders", .response
    ⟨200, Text.utf8 "<d><binding><operation name='Place'/></binding></d>", none⟩)]
  now := default
  clock := ""

/-- The arguments that ask for the checks with the address of the live description. -/
def checkLive : List String := ["drift-check", "--wsdl-url", "http://live/orders"]

/-- It is decidable whether a run ends with a given status. -/
instance (e : Ending) (n : Nat) : Decidable (e = .status n) :=
  match e with
  | .status k => decidable_of_iff (k = n) (by simp)
  | .misused | .misconfigured | .brokenOff _ => isFalse (by simp)

theorem session_lostOperation : ∃ saved, (run lostOperation checkLive).ending = .status 1 ∧
    (run lostOperation checkLive).saved = some saved ∧
    saved.report.results.map (·.details.head?) =
      [some "Operation REMOVED from live WSDL: Cancel", some
        "Local baseline not found: contracts/messages/order-created-event.schema.json"] := by
  have h : (run lostOperation checkLive).ending = .status 1 ∧
      (run lostOperation checkLive).saved.map (·.report.results.map (·.details.head?)) =
        some [some "Operation REMOVED from live WSDL: Cancel", some
          "Local baseline not found: contracts/messages/order-created-event.schema.json"] := by
    rw [lostOperation]
    repeat rw [Text.utf8_ofList]
    decide +kernel
  obtain ⟨saved, hsaved, hdetails⟩ := Option.map_eq_some_iff.mp h.2
  exact ⟨saved, h.1, hsaved, hdetails⟩

/-- The operation that is lost is in the file that is saved, and the run fails. -/
theorem run_agrees_lostOperation : ∃ i s,
    Invocation.parse checkLive = .ok i ∧
    (∀ e, (run lostOperation checkLive).ending ≠ .brokenOff e) ∧
    Settings.load lostOperation.files lostOperation.place lostOperation.environment [] = .ok s ∧
    Agrees s lostOperation i.command (run lostOperation checkLive) ∧
    ∃ saved, (run lostOperation checkLive).saved = some saved ∧
      SavesResults s lostOperation none (some "http://live/orders") none saved.report
        (.status 1) := by
  obtain ⟨saved, hending, hsaved, -⟩ := session_lostOperation
  have hparse : Invocation.parse checkLive =
      .ok ⟨none, .driftCheck none (some "http://live/orders") none⟩ := rfl
  have hreturns (e : Failure) : (run lostOperation checkLive).ending ≠ .brokenOff e := by
    rw [hending]
    exact nofun
  obtain ⟨hagrees, hmisfit⟩ := run_agrees hparse hreturns
  cases hload : Settings.load lostOperation.files lostOperation.place lostOperation.environment
      [] with
  | error e =>
    have hstatus := (hmisfit (by simp [hload])).1
    rw [hending] at hstatus
    exact absurd hstatus (by decide)
  | ok s =>
    have h := hagrees s hload
    refine ⟨_, s, hparse, hreturns, rfl, h, saved, hsaved, ?_⟩
    exact hending ▸ h.driftCheck _ _ _ saved rfl hsaved

end ContractDrift.CommandLine
