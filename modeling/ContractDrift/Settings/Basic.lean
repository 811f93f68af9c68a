/-
Settings.

A setting takes its value from the first source that has one: what is given directly, the
environment, or a file of assignments.  `ofSources` reads all settings and reports every
value that does not fit; `load` takes the file from a tree of files.

Design notes: a setting has a field name, under which a value can be given directly, and
variables, under which the environment and the file have it in letters of any case.  The
two endpoints have an older variable besides, which counts less than the newer one of the
same source.
-/
import ContractDrift.Drift.Check
import ContractDrift.Environment.File
import ContractDrift.Files.Tree
import ContractDrift.Files.Path
import ContractDrift.Log.Note
import ContractDrift.Text.LetterCase

namespace ContractDrift

open ContractDrift.Json (Value Members)
open ContractDrift.Environment (Assignments)
open ContractDrift.Record (Checked)

/-- What the program is told about its surroundings. -/
structure Settings where
  /-- The directory that the paths of baselines start from. -/
  contractsRoot : String
  wsdlPath : String
  messageSchemasDirectory : String
  orderCreatedSchema : String
  reportDirectory : String
  /-- The address of the service that publishes the description, without a path. -/
  stagingUrl : Option String
  wsdlEndpointPath : String
  /-- The address of the service that publishes the message schemas, without a path. -/
  integrationUrl : Option String
  messageSchemaEndpointPath : String
  /-- The seconds that one fetch may take. -/
  fetchTimeout : Float
  /-- Whether elements that no field declares make an envelope invalid. -/
  strictSoap : Bool
  driftPolicy : Drift.Policy
  logLevel : Log.Level
  deriving Repr, Inhabited

namespace Settings

/-! ## Sources -/

/-- Where values come from, the source that counts most first. -/
structure Sources where
  given : Members
  environment : Assignments
  file : Assignments
  deriving Inhabited

/-- The names of a setting. -/
structure Key where
  field : String
  /-- Names under which a value can be given that are its variables at the same time. -/
  aliases : List String
  deriving Repr, DecidableEq, Inhabited

/-- How the variables of settings begin. -/
def variableStart : String := "SENTINEL_"

/-- A setting with no other names than its own. -/
def Key.plain (field : String) : Key := ⟨field, []⟩

/-- A setting with a variable from earlier times. -/
def Key.endpoint (field : String) : Key :=
  ⟨field, [variableStart ++ Text.upper field, Text.upper field]⟩

/-- The names under which a value can be given, the one that counts most first. -/
def Key.names (k : Key) : List String := k.aliases ++ [k.field]

/-- The variables of a setting, the one that counts most first. -/
def Key.variables (k : Key) : List String :=
  if k.aliases.isEmpty then [variableStart ++ k.field] else k.aliases

/-- The keys of all settings. -/
def keys : List Key :=
  [.plain "contracts_root", .plain "wsdl_path", .plain "message_schemas_dir",
   .plain "order_created_schema", .plain "report_dir", .endpoint "app2_staging_url",
   .plain "wsdl_endpoint_path", .endpoint "integration_layer_url",
   .plain "message_schema_endpoint_path", .plain "fetch_timeout_seconds",
   .plain "strict_soap", .plain "drift_policy", .plain "log_level"]

/-- The value of a variable, whose name may be in letters of any case; of several the last
counts. -/
def valueOf? (a : Assignments) (name : String) : Option String :=
  ((a.reverse.find? fun e => Text.lower e.1 == Text.lower name).bind (·.2))

/-- The value of a setting. -/
def Sources.value? (s : Sources) (k : Key) : Option Value :=
  (k.names.findSome? (Members.get? s.given ·)).orElse fun _ =>
    ((k.variables.findSome? (valueOf? s.environment)).orElse fun _ =>
      k.variables.findSome? (valueOf? s.file)).map .text

/-! ## Reading -/

/-- Reads a setting that has a value when no source has one. -/
def setting {α : Type} (s : Sources) (k : Key) (read : String → Value → Checked α)
    (otherwise : α) : Checked α :=
  match s.value? k with
  | some v => read k.field v
  | none => .ok otherwise

/-- Reads a level from its name in letters of any case. -/
def readLevel (field : String) (v : Value) : Checked Log.Level :=
  Record.word field Log.levels (match v with
    | .text s => .text (Text.upper s)
    | v => v)

/-- The settings that some sources give. -/
def ofSources (s : Sources) : Checked Settings := do
  let text (field otherwise : String) := setting s (.plain field) Record.text otherwise
  let url (field : String) := setting s (.endpoint field) Record.text? none
  let ((root, wsdl, schemas, order, reports), (staging, wsdlPath, integration, schemaPath),
      timeout, strict, policy, level) ← Record.both
    (Record.both (text "contracts_root" ".")
      (Record.both (text "wsdl_path" "contracts/wsdl/order-service.wsdl")
        (Record.both (text "message_schemas_dir" "contracts/messages")
          (Record.both
            (text "order_created_schema" "contracts/messages/order-created-event.schema.json")
            (text "report_dir" "reports/drift")))))
    (Record.both
      (Record.both (url "app2_staging_url")
        (Record.both (text "wsdl_endpoint_path" "/ws/orders?wsdl")
          (Record.both (url "integration_layer_url")
            (text "message_schema_endpoint_path" "/api/schemas/order-events"))))
      (Record.both (setting s (.plain "fetch_timeout_seconds") Record.positiveNumber 30.0)
        (Record.both (setting s (.plain "strict_soap") Record.truth false)
          (Record.both
            (setting s (.plain "drift_policy") (Record.word · Drift.policies ·) .symmetric)
            (setting s (.plain "log_level") readLevel .info)))))
  return ⟨root, wsdl, schemas, order, reports, staging, wsdlPath, integration, schemaPath,
    timeout, strict, policy, level⟩

/-- Why there are no settings. -/
inductive LoadError where
  /-- The file of assignments is no text. -/
  | undecodable (e : Text.DecodeError)
  | invalid (issues : List Record.Issue)
  deriving Inhabited

/-- The name of the file of assignments. -/
def fileName : String := ".env"

/-- The text of the file of assignments at a place; it is empty when there is no file. -/
def fileText (files : Files.Tree) (place : Files.Path) : Except Text.DecodeError String :=
  match files.file? (place ++ [fileName]) with
  | some octets => Text.decodeUtf8 false octets
  | none => .ok ""

/-- The settings at a place in an environment, with what is given directly. -/
def load (files : Files.Tree) (place : Files.Path) (environment : Assignments)
    (given : Members) : Except LoadError Settings := do
  let text ← (fileText files place).mapError .undecodable
  let file := Environment.expand environment (Environment.parse text)
  (ofSources ⟨given, environment, file⟩).mapError .invalid

/-! ## Endpoints and checks -/

/-- A path at an address, without the slashes at the address's end; nothing if there is no
address. -/
def endpoint? (address : Option String) (path : String) : Option String :=
  match address with
  | none => none
  | some "" => none
  | some a => some (String.ofList (a.toList.reverse.dropWhile (· == '/')).reverse ++ path)

/-- The address of the live description. -/
def liveWsdlUrl (s : Settings) : Option String := endpoint? s.stagingUrl s.wsdlEndpointPath

/-- The address of the live message schema. -/
def liveMessageSchemaUrl (s : Settings) : Option String :=
  endpoint? s.integrationUrl s.messageSchemaEndpointPath

/-- The checks that every run makes. -/
def checks (s : Settings) : List Drift.Check :=
  [⟨"App2 WSDL (order-service.wsdl)", .wsdl, s.wsdlPath, s.liveWsdlUrl, none, s.driftPolicy⟩,
   ⟨"Integration Layer Message Schemas", .message, s.orderCreatedSchema, s.liveMessageSchemaUrl,
     none, s.driftPolicy⟩]

/-! ## Laws -/

/-- What is given under the name that counts most is the value. -/
theorem value?_of_given (s : Sources) (field : String) (v : Value)
    (h : s.given.get? field = some v) : s.value? (.plain field) = some v := by
  simp [Sources.value?, Key.names, Key.plain, h]

/-- There is an endpoint exactly if there is an address with any text. -/
theorem endpoint?_eq_none_iff (address : Option String) (path : String) :
    endpoint? address path = none ↔ address = none ∨ address = some "" := by
  unfold endpoint?
  split <;> simp_all

end Settings

end ContractDrift
