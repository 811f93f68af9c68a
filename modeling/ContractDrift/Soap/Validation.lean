/-
Checking the body of an envelope against an operation.

`validate` looks for the wrapper of the operation in the body of an envelope, and
compares the names of the elements inside with the declared fields.  What is wrong with
an envelope stands in the verdict; only a value that names no direction, or an envelope
in a character set that cannot be read, is a failure.
-/
import ContractDrift.Wsdl.Model

namespace ContractDrift.Soap

open ContractDrift.Wsdl (Direction Field Model Operation wrapperName)
open ContractDrift.Xml (Node)

/-- The outcome of a check. -/
structure Verdict where
  valid : Bool
  missing : List String
  unexpected : List String
  operation : String
  deriving Repr, DecidableEq, Inhabited

/-- Why there is no outcome. -/
inductive ValidationError where
  | direction (e : Wsdl.DirectionError)
  | envelope (e : Xml.ReadError)

/-- What is missing when an envelope has no body. -/
def bodyNotFound : String := "SOAP Body not found"

/-- The verdict that one thing is missing. -/
def refusal (operation reason : String) : Verdict := ⟨false, [reason], [], operation⟩

/-- The body of an envelope. -/
def bodyOf? (envelope : Node) : Option Node :=
  if envelope.name = "Envelope" then envelope.child "Body" else none

/-- The body of an envelope given by its octets; nothing if there is none, or if the
envelope is not well-formed. -/
def findBody (octets : Text.Octets) : Except Xml.ReadError (Option Node) :=
  match Node.parse octets with
  | .ok envelope => .ok (bodyOf? envelope)
  | .error .empty => .ok none
  | .error (.unreadable (.malformed _ _ _)) => .ok none
  | .error (.unreadable e) => .error e

/-- The required fields that are not among the present names. -/
def missingFields (fields : List Field) (present : List String) : List String :=
  (fields.filter fun f => f.required && !present.contains f.name).map (·.name)

/-- The present names that no field has. -/
def unexpectedNames (fields : List Field) (present : List String) : List String :=
  Text.distinct (present.filter fun n => !fields.any (·.name == n))

/-- The verdict on the elements inside the wrapper. -/
def judge (strict : Bool) (operation : String) (fields : List Field) (present : List String) :
    Verdict :=
  let missing := missingFields fields present
  let unexpected := unexpectedNames fields present
  ⟨missing.isEmpty && !(strict && !unexpected.isEmpty), missing, unexpected, operation⟩

/-- The verdict on a body. -/
def judgeBody (strict : Bool) (o : Operation) (name : String) (d : Direction) (body : Node) :
    Verdict :=
  match body.child (wrapperName name d) with
  | none => refusal name (wrapperName name d ++ " element not found in SOAP Body")
  | some content => judge strict name (o.fieldsFor d) content.childNames

/-- The verdict on an envelope. -/
def validateIn (m : Model) (strict : Bool) (octets : Text.Octets) (name : String)
    (d : Direction) : Except Xml.ReadError Verdict :=
  match m.operation? name with
  | none => .ok (refusal name ("Operation not found: " ++ name))
  | some o => do
    match ← findBody octets with
    | none => pure (refusal name bodyNotFound)
    | some body => pure (judgeBody strict o name d body)

/-- The verdict on an envelope, for a direction given by a value. -/
def validate (m : Model) (strict : Bool) (octets : Text.Octets) (name : String)
    (direction : Json.Value) : Except ValidationError Verdict :=
  match Direction.ofValue direction with
  | .error e => .error (.direction e)
  | .ok d =>
    match validateIn m strict octets name d with
    | .ok v => .ok v
    | .error e => .error (.envelope e)

/-- The verdict as a JSON object. -/
def Verdict.toJson (v : Verdict) : Json.Value :=
  .object [("valid", .bool v.valid), ("missing_elements", .array (v.missing.map .text)),
    ("unexpected_elements", .array (v.unexpected.map .text)), ("operation", .text v.operation)]

end ContractDrift.Soap
