/-
Runs of the program.

`run` takes the arguments of a run and its surroundings, and gives what it puts out, the
report that it saves, the addresses that it asks for and how it ends.

Design notes: a command is a function of the settings and the surroundings and gives an
`Activity`: its notes, then what it prints, and its status or why it has none.  A failure
that is reported becomes one more note and the status for errors.
-/
import ContractDrift.CommandLine.Arguments
import ContractDrift.CommandLine.Failure
import ContractDrift.CommandLine.Help
import ContractDrift.Log.Checking
import ContractDrift.Settings.Basic
import ContractDrift.Text.Line

namespace ContractDrift.CommandLine

open ContractDrift.Json (Value)
open ContractDrift.Log (Note Level)
open ContractDrift.Text (Octets)
open ContractDrift.Wsdl (Direction Model Operation)

/-- What a run finds. -/
structure Surroundings where
  files : Files.Tree
  /-- The directory that the run starts in. -/
  place : Files.Path
  environment : Environment.Assignments
  network : Http.Network
  now : Drift.Moment
  /-- The time as the log shows it. -/
  clock : String

/-- The status of a run that finds what it was asked to check in order. -/
def statusFine : Nat := 0

/-- The status of a run that finds something out of order. -/
def statusFailed : Nat := 1

/-- The status of a run that cannot do what it was asked to. -/
def statusUnusable : Nat := 2

/-- The status for a verdict. -/
def statusOf (fine : Bool) : Nat := if fine then statusFine else statusFailed

/-- A report with the directory where it is saved. -/
structure Saved where
  directory : Files.Path
  report : Drift.Report
  deriving Repr, DecidableEq, Inhabited

/-- What a command does. -/
structure Activity where
  notes : List Note
  printed : List String
  complaints : List String
  saved : Option Saved
  /-- The addresses that are fetched, in order. -/
  fetched : List String
  outcome : Except Failure Nat

namespace Activity

/-- A command that fails after some notes. -/
def failed (notes : List Note) (e : Failure) : Activity := ⟨notes, [], [], none, [], .error e⟩

/-- A command that prints something. -/
def prints (notes : List Note) (printed : List String) (status : Nat) : Activity :=
  ⟨notes, printed, [], none, [], .ok status⟩

/-- A command that is refused. -/
def refuses (notes : List Note) (complaint : String) : Activity :=
  ⟨notes, [], [complaint], none, [], .ok statusUnusable⟩

end Activity

/-! ## The stored contracts -/

/-- Access to the stored contracts. -/
def storedFiles (s : Settings) (w : Surroundings) : Except Failure Files.Reader :=
  (Files.Reader.open? w.files w.place s.contractsRoot).mapError .file

/-- The stored description. -/
def storedModel (s : Settings) (w : Surroundings) : Except Failure Model := do
  let r ← storedFiles s w
  let octets ← (r.read s.wsdlPath).mapError .file
  (Model.load octets).mapError .description

/-- The notes on loading the stored description. -/
def storedModelNotes (s : Settings) (w : Surroundings) : List Note :=
  match storedFiles s w with
  | .error _ => []
  | .ok r =>
    Log.ofReading r s.wsdlPath ++
      match r.read s.wsdlPath with
      | .ok octets => Log.ofDescription octets
      | .error _ => []

/-- A command that works with the stored description. -/
def withStoredModel (s : Settings) (w : Surroundings)
    (command : List Note → Model → Activity) : Activity :=
  let notes := storedModelNotes s w
  match storedModel s w with
  | .error e => .failed notes e
  | .ok m => command notes m

/-! ## Commands -/

/-- Checks the envelope in a file. -/
def validateSoap (s : Settings) (w : Surroundings) (envelope operation : String)
    (direction : Direction) (strict : Bool) : Activity :=
  withStoredModel s w fun notes m =>
    match w.files.open? w.place (Files.tidy envelope) with
    | .error e => .failed notes (.path e)
    | .ok octets =>
      let strict := strict || s.strictSoap
      let notes := notes ++ Log.ofEnvelope m strict octets operation direction
      match Soap.validateIn m strict octets operation direction with
      | .error e => .failed notes (.envelope e)
      | .ok v => .prints notes [Json.writeIndented 2 v.toJson] (statusOf v.valid)

/-- A violation as a JSON object. -/
def violationJson (v : Schema.Violation) : Value :=
  .object [("path", .text v.place), ("message", .text v.message),
    ("validator", .text v.keywordShown)]

/-- A verdict on a document as a JSON object; the violations are left out when there are
none. -/
def verdictJson (v : Schema.Verdict) : Value :=
  let errors := v.errors?.elim [] fun found => [("errors", .array (found.map violationJson))]
  .object ([("valid", .bool v.isValid)] ++ errors ++ [("schema_id", .text v.id)])

/-- Reads a payload; a text that is no JSON gives the refusal. -/
def readPayload (w : Surroundings) (path : String) :
    Except Failure (Except Json.ReadError Value) := do
  let octets ← (w.files.open? w.place path).mapError .path
  let text ← (Text.decodeUtf8 false octets).mapError .undecodable
  match Json.parseChars (Text.unifyEnds text.toList) with
  | .ok v => return .ok v
  | .error (.tooManyDigits n) => throw (.payload (.tooManyDigits n))
  | .error e => return .error e

/-- Checks the document in a file against a schema of some that are loaded. -/
def validateLoaded (w : Surroundings) (notes : List Note) (registry : Schema.Registry)
    (schema path : String) : Activity :=
  match readPayload w path with
  | .error e => .failed notes e
  | .ok (.error e) => .refuses notes ("ERROR: " ++ path ++ " is not valid JSON: " ++ e.message)
  | .ok (.ok v) =>
    match registry.validate schema v with
    | .error e => .failed notes (.query e)
    | .ok found => .prints notes [Json.writeIndented 2 (verdictJson found)]
        (statusOf found.isValid)

/-- Checks the document in a file. -/
def validateMessage (s : Settings) (w : Surroundings) (schema payload : String) : Activity :=
  match storedFiles s w with
  | .error e => .failed [] e
  | .ok r =>
    let notes := Log.ofSchemaDirectory r .empty s.messageSchemasDirectory
    let batch := Schema.Registry.empty.loadAll r s.messageSchemasDirectory
    match batch.failure with
    | some e => .failed notes (.schema e)
    | none => validateLoaded w notes batch.registry schema (Files.tidy payload)

/-- The line of an operation in a list. -/
def operationLine (o : Operation) : String :=
  let required := (o.input.filter (·.required)).map (·.name)
  "\t".intercalate [o.name, o.action, "required=" ++ ",".intercalate required]

/-- Lists the operations. -/
def listOperations (s : Settings) (w : Surroundings) : Activity :=
  withStoredModel s w fun notes m =>
    .prints notes (m.sortedOperations.map operationLine) statusFine

/-- Prints an envelope. -/
def skeleton (s : Settings) (w : Surroundings) (operation : String) (direction : Direction) :
    Activity :=
  withStoredModel s w fun notes m =>
    match m.operation? operation with
    | none => .refuses notes ("ERROR: operation not found: " ++ operation)
    | some o =>
      match Soap.buildIn o direction [] Soap.defaultNamespace with
      | .error e => .failed notes (.skeleton e)
      | .ok text => .prints notes [text] statusFine

/-! ## Drift -/

/-- The checks of a run; an address that is given counts more than that of the settings. -/
def checksOf (s : Settings) (wsdlUrl messageSchemaUrl : Option String) : List Drift.Check :=
  s.checks.map fun c =>
    let given := match c.family with
      | .wsdl => wsdlUrl
      | .message => messageSchemaUrl
    match given.filter (· ≠ "") with
    | some url => { c with liveUrl := some url }
    | none => c

/-- The directory for reports as it is written. -/
def reportDirectoryOf (s : Settings) (given : Option String) : String :=
  match given.filter (· ≠ "") with
  | some directory => Files.tidy directory
  | none => Files.join s.contractsRoot s.reportDirectory

/-- The files with a report saved in a directory, which is made if it is not there. -/
def withReport (files : Files.Tree) (place : Files.Path) (directory : String)
    (report : Drift.Report) : Except Files.PathError Files.Tree := do
  let files ← files.makeDirectory place directory
  files.writeFile place (Files.join directory report.fileName) (Text.utf8 report.fileText)

/-- Saves a report and prints its summary. -/
def saveReport (w : Surroundings) (notes : List Note) (fetched : List String)
    (directory : String) (report : Drift.Report) : Activity :=
  match withReport w.files w.place directory report with
  | .error e => { Activity.failed notes (.path e) with fetched }
  | .ok _ =>
    let notes := notes ++ Log.ofSaving (Files.join directory report.fileName)
    let saved : Saved := ⟨Files.resolve w.place directory, report⟩
    if report.hasDrift then
      ⟨notes, [report.summaryText], ["ERROR: schema drift detected, review the report above"],
        some saved, fetched, .ok report.exitStatus⟩
    else
      ⟨notes, [report.summaryText, "OK: no schema drift detected"], [], some saved, fetched,
        .ok report.exitStatus⟩

/-- Makes the checks. -/
def driftCheck (s : Settings) (w : Surroundings)
    (reportDirectory wsdlUrl messageSchemaUrl : Option String) : Activity :=
  match storedFiles s w with
  | .error e => .failed [] e
  | .ok r =>
    let access := Drift.Access.of r w.network
    let checks := checksOf s wsdlUrl messageSchemaUrl
    let notes := Log.ofChecks r access checks
    let fetched := Drift.fetchedIn (Drift.madeFrom (fun _ => access) 0 checks)
    match Drift.run (fun _ => access) checks with
    | .error e => { Activity.failed notes (.drift e) with fetched }
    | .ok outcomes =>
      saveReport w notes fetched (reportDirectoryOf s reportDirectory)
        (Drift.reportOf w.now outcomes)

/-- Does what a command asks for. -/
def execute (s : Settings) (w : Surroundings) : Command → Activity
  | .driftCheck directory wsdlUrl messageSchemaUrl =>
    driftCheck s w directory wsdlUrl messageSchemaUrl
  | .validateSoap envelope operation direction strict =>
    validateSoap s w envelope operation direction strict
  | .validateMessage schema payload => validateMessage s w schema payload
  | .listOperations => listOperations s w
  | .skeleton operation direction => skeleton s w operation direction

/-! ## Runs -/

/-- How a run ends. -/
inductive Ending where
  | status (n : Nat)
  /-- The arguments are no command. -/
  | misused
  /-- The settings do not fit. -/
  | misconfigured
  /-- A failure breaks the run off. -/
  | brokenOff (e : Failure)
  deriving Inhabited

/-- The exit status of a run. -/
def Ending.exitStatus : Ending → Nat
  | status n => n
  | misused => statusUnusable
  | misconfigured => statusUnusable
  | brokenOff _ => statusFailed

/-- What a run puts out and leaves behind. -/
structure Session where
  /-- What is put out, each part with the end of a line after it. -/
  output : List String
  complaints : List String
  saved : Option Saved
  fetched : List String
  ending : Ending

/-- The note on a failure that is reported. -/
def failureNote (command : String) (e : Failure) : Note :=
  ⟨"schema_sentinel.cli", .error, command ++ " failed: " ++ e.message⟩

/-- The session of a command, with a log from a level on. -/
def Activity.session (a : Activity) (w : Surroundings) (command : String) (least : Level) :
    Session :=
  let shown (notes : List Note) : List String :=
    (notes.filter (·.isShown least)).map (·.line w.clock)
  match a.outcome with
  | .ok n => ⟨shown a.notes ++ a.printed, a.complaints, a.saved, a.fetched, .status n⟩
  | .error e =>
    if e.isReported then
      ⟨shown (a.notes ++ [failureNote command e]), [], a.saved, a.fetched,
        .status statusUnusable⟩
    else ⟨shown a.notes, [], a.saved, a.fetched, .brokenOff e⟩

/-- The complaint about settings with a number of issues. -/
def configurationComplaint (issues : Nat) : String :=
  s!"ERROR: invalid configuration: {issues} validation error" ++
    (if issues = 1 then "" else "s") ++ " for Settings"

/-- The session of a run. -/
def run (w : Surroundings) (arguments : List String) : Session :=
  match Invocation.parse arguments with
  | .error .misuse => ⟨[], [], none, [], .misused⟩
  | .error (.help command) => ⟨[page command], [], none, [], .status statusFine⟩
  | .ok i =>
    match Settings.load w.files w.place w.environment [] with
    | .error (.undecodable e) => ⟨[], [], none, [], .brokenOff (.undecodable e)⟩
    | .error (.invalid issues) =>
      ⟨[], [configurationComplaint issues.length], none, [], .misconfigured⟩
    | .ok s =>
      (execute s w i.command).session w i.command.name (i.logLevel.getD s.logLevel)

end ContractDrift.CommandLine
