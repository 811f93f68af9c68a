/-
Comparing baselines with live contracts.

A contract is projected to names: a service description to its operations and a message
schema to its required fields.  `checkDrift` compares the names of a check's baseline with
those of the live contract and says what it finds, and `run` does so for each check in
order.

Design notes: `Access` is how a check reaches files and endpoints; each of its calls can
fail in any way.  Whatever fails after the test that the baseline exists becomes a result,
so that only this test can end a run.  An outcome has the address that was fetched beside
the result.  `run` takes the access that each check finds, by the check's position: files
and endpoints can change from one check to the next.
-/
import ContractDrift.Drift.Check
import ContractDrift.Drift.Report
import ContractDrift.Schema.Registry
import ContractDrift.Wsdl.Model
import ContractDrift.Http.Fetch

namespace ContractDrift.Drift

open ContractDrift.Json (Value Members)
open ContractDrift.Text (Octets)

/-- The two sides of a comparison. -/
inductive Side where
  | baseline
  | live
  deriving Repr, DecidableEq, Inhabited

/-- The name of a side. -/
def Side.name : Side → String
  | baseline => "Local"
  | live => "Live"

/-- Why a check comes to no comparison. -/
inductive Failure where
  /-- The endpoint cannot be reached or refuses to answer. -/
  | unreachable (message : String) (status : Option Nat)
  | file (e : Files.ReadError)
  | wsdl (e : Xml.DocumentError)
  | schema (e : Schema.LoadError)
  /-- The live schema is no JSON. -/
  | liveJson (e : Json.ReadError)
  | notAnObject (side : Side)
  | requiredNotTexts (side : Side)
  /-- Anything else that files or endpoints come up with. -/
  | other (p : Http.Problem)
  deriving Inhabited

namespace Failure

/-- The wording of a failure. -/
def message : Failure → String
  | unreachable m _ => m
  | file e => e.message
  | wsdl e => e.message
  | schema e => e.message
  | liveJson (.tooManyDigits n) => (Json.ReadError.tooManyDigits n).message
  | liveJson e => "Live schema is not valid JSON: " ++ e.message
  | notAnObject side => side.name ++ " schema must be a JSON object"
  | requiredNotTexts side => side.name ++ " schema 'required' must be an array of strings"
  | other p => p.text

/-- Whether a failure is one that a contract or the place where it is kept can be expected to
have. -/
def isOfContract : Failure → Bool
  | unreachable _ _ => true
  | file e => e.isAbsence
  | wsdl e => e.isOfContent
  | schema e => e.isOfContent
  | liveJson (.tooManyDigits _) => false
  | liveJson _ => true
  | notAnObject _ => true
  | requiredNotTexts _ => true
  | other _ => false

/-- The failure that a fetch ends with. -/
def ofFetch : Http.FetchError → Failure
  | .network m status => unreachable m status
  | .other p => other p

end Failure

/-- How a check reaches files and endpoints. -/
structure Access where
  isFile : String → Except Failure Bool
  resolve : String → Except Failure Files.Path
  read : String → Except Failure Octets
  fetch : String → Except Failure Octets

/-- Access to the files of a reader and to a network. -/
def Access.of (r : Files.Reader) (n : Http.Network) : Access where
  isFile path := (r.exists? path).mapError .file
  resolve path := (r.resolve path).mapError .file
  read path := (r.read path).mapError .file
  fetch address := (Http.fetch n address).result.mapError .ofFetch

/-! ## Projections -/

/-- The names of the operations of a service description. -/
def wsdlNames (document : Octets) : Except Failure (List String) :=
  match Wsdl.Model.load document with
  | .ok m => .ok m.operationNames
  | .error e => .error (.wsdl e)

/-- The required fields of a schema; a member that says nothing counts as none. -/
def requiredNames (side : Side) (schema : Value) : Except Failure (List String) :=
  match schema with
  | .object m =>
    match Members.get? m "required" with
    | none => .ok []
    | some v =>
      if !v.isTruthy then .ok []
      else match v with
        | .array xs =>
          if xs.all Value.isText then .ok (Text.distinct (xs.filterMap Value.text?))
          else .error (.requiredNotTexts side)
        | _ => .error (.requiredNotTexts side)
  | _ => .error (.notAnObject side)

/-- The required fields of a baseline, which has to be a schema. -/
def baselineSchemaNames (name path : String) (document : Octets) : Except Failure (List String) :=
  match Schema.compile [] (.octets document) (some name) (some path) with
  | .ok l => requiredNames .baseline (.object l.schema.document)
  | .error e => .error (.schema e)

/-- The required fields of a live schema, which has to be JSON. -/
def liveSchemaNames (document : Octets) : Except Failure (List String) :=
  match Json.parseOctets document with
  | .ok v => requiredNames .live v
  | .error e => .error (.liveJson e)

/-- The names of a check's baseline. -/
def baselineNames (a : Access) (c : Check) : Except Failure (List String) := do
  let document ← a.read c.baselinePath
  match c.family with
  | .wsdl => wsdlNames document
  | .message => do
    let path ← a.resolve c.baselinePath
    baselineSchemaNames c.name path.text document

/-- The names of a live contract. -/
def liveNames (family : Family) (document : Octets) : Except Failure (List String) :=
  match family with
  | .wsdl => wsdlNames document
  | .message => liveSchemaNames document

/-! ## Results -/

/-- The word for the contracts of a family. -/
def Family.kind : Family → String
  | wsdl => "WSDL"
  | message => "message schema"

/-- The detail for a name that the live contract lacks. -/
def Family.removedLine (f : Family) (name : String) : String :=
  (match f with
    | wsdl => "Operation REMOVED from live WSDL: "
    | message => "Required field removed from live schema: ") ++ name

/-- The detail for a name that only the live contract has. -/
def Family.addedLine (f : Family) (name : String) : String :=
  (match f with
    | wsdl => "New operation in live WSDL: "
    | message => "New required field in live schema: ") ++ name

/-- The detail when there is no difference. -/
def Family.matchLine : Family → String
  | wsdl => "All operations match"
  | message => "Message schemas match"

/-- The detail when additions are no drift. -/
def additionsLine : String := "Additions are backward compatible under the 'breaking' policy"

/-- The names of the first list that the second lacks, sorted. -/
def namesLost (a b : List String) : List String := Text.sort (a.filter fun x => !b.contains x)

/-- The result of comparing the names of a baseline with those of the live contract. -/
def compareNames (c : Check) (baseline live : List String) : Result :=
  let removed := namesLost baseline live
  let added := namesLost live baseline
  let closing :=
    if removed.isEmpty && added.isEmpty then [c.family.matchLine]
    else if !added.isEmpty && c.policy == .breaking then [additionsLine]
    else []
  ⟨c.name, !removed.isEmpty || (!added.isEmpty && c.policy == .symmetric),
    removed.map c.family.removedLine ++ added.map c.family.addedLine ++ closing⟩

/-- The result when the baseline is no file. -/
def missingBaseline (c : Check) : Result :=
  ⟨c.name, true, ["Local baseline not found: " ++ c.baselinePath]⟩

/-- The result when there is nothing to fetch. -/
def noEndpoint (c : Check) : Result :=
  ⟨c.name, false, ["No live endpoint configured for " ++ c.name ++ ", skipping live fetch"]⟩

/-- The result when the endpoint cannot be reached. -/
def unreachableResult (c : Check) (message : String) : Result :=
  match c.unreachable with
  | .drift =>
    ⟨c.name, true, ["Failed to fetch live " ++ c.family.kind ++ ": " ++ message]⟩
  | .advisory =>
    ⟨c.name, false, ["Live " ++ c.family.kind ++ " not exposed by endpoint (" ++ message ++
      "), manual check required"]⟩

/-- The result when a check comes to no comparison. -/
def failed (c : Check) (e : Failure) : Result :=
  match e with
  | .unreachable message _ => unreachableResult c message
  | e => ⟨c.name, true, ["Error checking " ++ c.name ++ ": " ++ e.message]⟩

/-! ## Runs -/

/-- A result with the address that was fetched for it, if any was. -/
structure Outcome where
  result : Result
  fetched : Option String
  deriving Repr, DecidableEq, Inhabited

/-- The outcome of a check whose baseline is there and that has an address to fetch. -/
def compareLive (a : Access) (c : Check) (address : String) : Outcome :=
  match baselineNames a c with
  | .error e => ⟨failed c e, none⟩
  | .ok baseline =>
    match (a.fetch address).bind (liveNames c.family) with
    | .error e => ⟨failed c e, some address⟩
    | .ok live => ⟨compareNames c baseline live, some address⟩

/-- Makes a check. -/
def checkDrift (a : Access) (c : Check) : Except Failure Outcome :=
  match a.isFile c.baselinePath with
  | .error e => .error e
  | .ok false => .ok ⟨missingBaseline c, none⟩
  | .ok true =>
    match c.address? with
    | none => .ok ⟨noEndpoint c, none⟩
    | some address => .ok (compareLive a c address)

/-- Makes the checks one after the other; `position` is that of the first. -/
def runFrom (access : Nat → Access) : (position : Nat) → List Check → Except Failure (List Outcome)
  | _, [] => .ok []
  | i, c :: r => do
    let here ← checkDrift (access i) c
    return here :: (← runFrom access (i + 1) r)

/-- Makes the checks one after the other. -/
def run (access : Nat → Access) (checks : List Check) : Except Failure (List Outcome) :=
  runFrom access 0 checks

/-- The outcomes of the checks before the first that cannot be made. -/
def madeFrom (access : Nat → Access) : (position : Nat) → List Check → List Outcome
  | _, [] => []
  | i, c :: r =>
    match checkDrift (access i) c with
    | .error _ => []
    | .ok o => o :: madeFrom access (i + 1) r

/-- The report of a run. -/
def reportOf (now : Moment) (outcomes : List Outcome) : Report :=
  Report.ofResults now (outcomes.map (·.result))

/-- The addresses that were fetched in a run, in order. -/
def fetchedIn (outcomes : List Outcome) : List String := outcomes.filterMap (·.fetched)

/-! ## Laws -/

@[simp]
theorem compareNames_name (c : Check) (baseline live : List String) :
    (compareNames c baseline live).name = c.name := rfl

/-- A run that comes to its end has made all its checks. -/
theorem madeFrom_of_runFrom {access : Nat → Access} {i : Nat} {checks : List Check}
    {outcomes : List Outcome} (h : runFrom access i checks = .ok outcomes) :
    madeFrom access i checks = outcomes := by
  induction checks generalizing i outcomes with
  | nil =>
    simp only [runFrom, Except.ok.injEq] at h
    exact h
  | cons c r ih =>
    unfold runFrom at h
    unfold madeFrom
    cases hc : checkDrift (access i) c with
    | error e => simp [hc, bind, Except.bind] at h
    | ok o =>
      cases hr : runFrom access (i + 1) r with
      | error e => simp [hc, hr, bind, Except.bind] at h
      | ok os =>
        simp only [hc, hr, bind, Except.bind, pure, Except.pure, Except.ok.injEq] at h
        simp [ih hr, ← h]

/-- A list of names lacks nothing of itself. -/
theorem namesLost_self (a : List String) : namesLost a a = [] := by
  have : a.filter (fun x => !a.contains x) = [] := by
    rw [List.filter_eq_nil_iff]
    intro x hx
    simp [hx]
  unfold namesLost
  rw [this]
  simp [Text.sort]

/-- A contract that has the names of its baseline is clean. -/
theorem compareNames_self (c : Check) (a : List String) :
    compareNames c a a = ⟨c.name, false, [c.family.matchLine]⟩ := by
  simp [compareNames, namesLost_self]

end ContractDrift.Drift
