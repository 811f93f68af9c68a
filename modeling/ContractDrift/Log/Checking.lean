/-
Notes about what is found.

Each function gives the notes that come with one activity of the library, in the order in
which they are made: checking an envelope, making a check, and saving a report.
-/
import ContractDrift.Drift.Detector
import ContractDrift.Log.Loading
import ContractDrift.Soap.Validation

namespace ContractDrift.Log

open ContractDrift.Drift (Access Check Failure Outcome Result)
open ContractDrift.Text (Octets)
open ContractDrift.Wsdl (Direction Model wrapperName)

/-! ## Envelopes -/

/-- The part that checks envelopes. -/
def soapValidator : String := "schema_sentinel.services.soap_validator"

/-- The notes on a verdict about the elements inside a wrapper. -/
def ofVerdict (wrapper : String) (v : Soap.Verdict) : List Note :=
  if v.valid then [] else
    [⟨soapValidator, .debug, wrapper ++ " failed validation: missing=" ++
      Json.displayTexts v.missing ++ " unexpected=" ++ Json.displayTexts v.unexpected⟩]

/-- The notes on an envelope whose operation is known. -/
def ofKnownEnvelope (strict : Bool) (o : Wsdl.Operation) (octets : Octets) (name : String)
    (d : Direction) : List Note :=
  match Xml.Node.parse octets with
  | .error e =>
    if e.isOfContent then
      [⟨soapValidator, .warning, "SOAP envelope is not well-formed: " ++ e.message⟩]
    else []
  | .ok envelope =>
    match (Soap.bodyOf? envelope).bind fun body => body.child (wrapperName name d) with
    | none => []
    | some content =>
      ofVerdict (wrapperName name d) (Soap.judge strict name (o.fieldsFor d) content.childNames)

/-- The notes on checking an envelope. -/
def ofEnvelope (m : Model) (strict : Bool) (octets : Octets) (name : String) (d : Direction) :
    List Note :=
  match m.operation? name with
  | none => []
  | some o => ofKnownEnvelope strict o octets name d

/-! ## Drift -/

/-- The part that makes checks. -/
def driftDetector : String := "schema_sentinel.services.drift_detector"

/-- A note on a check. -/
def onCheck (c : Check) (level : Level) (text : String) : Note :=
  ⟨driftDetector, level, c.name ++ ": " ++ text⟩

/-- The notes on loading the baseline of a check. -/
def ofBaseline (r : Files.Reader) (c : Check) : List Note :=
  ofReading r c.baselinePath ++
    match r.read c.baselinePath, r.resolve c.baselinePath with
    | .ok document, .ok path =>
      match c.family with
      | .wsdl => ofDescription document
      | .message =>
        match Schema.compile [] (.octets document) (some c.name) (some path.text) with
        | .ok l => ofEntering .empty l
        | .error _ => []
    | _, _ => []

/-- The notes on fetching and loading a live contract. -/
def ofLive (a : Access) (c : Check) (address : String) : List Note :=
  ofFetching address ++
    match a.fetch address, c.family with
    | .ok document, .wsdl => ofDescription document
    | _, _ => []

/-- The note on a check that comes to no comparison. -/
def ofFailure (c : Check) (e : Failure) : Note :=
  match e with
  | .unreachable message _ =>
    match c.unreachable with
    | .drift => onCheck c .warning ("live fetch failed: " ++ message)
    | .advisory =>
      onCheck c .info ("live " ++ c.family.kind ++ " unavailable: " ++ message)
  | e =>
    if e.isOfContract then onCheck c .error ("check failed: " ++ e.message)
    else onCheck c .error "unexpected error during check"

/-- The note on a comparison of names. -/
def ofComparison (c : Check) (baseline live : List String) : Note :=
  if (Drift.compareNames c baseline live).drifted then
    let removed := (Drift.namesLost baseline live).length
    let added := (Drift.namesLost live baseline).length
    onCheck c .warning s!"drift detected ({removed} removed, {added} added)"
  else onCheck c .info "no drift"

/-- The notes on comparing a baseline with what an address gives. -/
def ofComparing (r : Files.Reader) (a : Access) (c : Check) (address : String) : List Note :=
  ofBaseline r c ++
    match Drift.baselineNames a c with
    | .error e => [ofFailure c e]
    | .ok baseline =>
      ofLive a c address ++
        match (a.fetch address).bind (Drift.liveNames c.family) with
        | .error e => [ofFailure c e]
        | .ok live => [ofComparison c baseline live]

/-- The notes on making a check. -/
def ofCheck (r : Files.Reader) (a : Access) (c : Check) : List Note :=
  match a.isFile c.baselinePath with
  | .error _ => []
  | .ok false =>
    [onCheck c .warning ("local baseline not found at " ++ c.baselinePath)]
  | .ok true =>
    match c.address? with
    | none => [onCheck c .info "no live endpoint configured, skipping"]
    | some address => ofComparing r a c address

/-- The notes on making checks, up to the first that cannot be made. -/
def ofChecks (r : Files.Reader) (a : Access) : List Check → List Note
  | [] => []
  | c :: rest =>
    match Drift.checkDrift a c with
    | .error _ => []
    | .ok _ => ofCheck r a c ++ ofChecks r a rest

/-- The notes on saving a report in a file. -/
def ofSaving (path : String) : List Note :=
  [⟨"schema_sentinel.services.report", .info, "Report saved to: " ++ path⟩]

end ContractDrift.Log
