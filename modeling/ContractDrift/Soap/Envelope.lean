/-
Building envelopes.

`build` renders an envelope for an operation from values: one element for each field
in declaration order, one for each item of a list, the declared fields inside a field
whose value is an object, and a placeholder for a required field without a value.
Optional fields without a value are left out.

Design notes: the values are rendered into a tree of elements (`render…`), and only
then is the tree written; the names in the tree are in expanded form.
-/
import ContractDrift.Wsdl.Operation
import ContractDrift.Xml.Writer

namespace ContractDrift.Soap

open ContractDrift.Json (Value Members)
open ContractDrift.Wsdl (Direction Field Operation wrapperName)
open ContractDrift.Xml (Element)

/-- The namespace of envelopes. -/
def envelopeNamespace : String := "http://schemas.xmlsoap.org/soap/envelope/"

/-- The namespace of messages where no other is given. -/
def defaultNamespace : String := "http://app2.example.com/orders"

/-- The text of a required field without a value. -/
def placeholder : String := "?"

/-- The prefixes of the two namespaces. -/
def envelopePrefixes : Xml.Prefixes := [(envelopeNamespace, "soap"), (defaultNamespace, "ns")]

/-- A name in a namespace, in expanded form; the empty namespace is none. -/
def qualified (uri name : String) : String :=
  if uri = "" then name else Text.braced uri ++ name

/-- The text of a value that has no fields. -/
def scalarText : Value → String
  | .bool b => if b then "true" else "false"
  | v => Json.plain v

/-- An element with text only. -/
def leaf (name text : String) : Element := .mk name [] text []

/-- An element with children only. -/
def branch (name : String) (children : List Element) : Element := .mk name [] "" children

/-- The members of an object as elements named by their keys. -/
def renderMembers (uri : String) (m : Members) : List Element :=
  m.map fun (k, v) => leaf (qualified uri k) (scalarText v)

/-- The values that a field takes from the given value: the items of a list, or the value
itself; none for an optional field without a value. -/
def occurrences (required : Bool) : Option Value → List Value
  | none => if required then [.null] else []
  | some .null => if required then [.null] else []
  | some (.array xs) => xs
  | some v => [v]

mutual

/-- The element of one occurrence of a field. -/
def renderField (uri : String) : Field → Value → Element
  | .mk name _ _ children, v =>
    let tag := qualified uri name
    match v with
    | .object m =>
      match children with
      | some (f :: fs) => branch tag (renderFields uri (f :: fs) m)
      | _ => branch tag (renderMembers uri m)
    | .null =>
      match children with
      | some (f :: fs) => branch tag (renderFields uri (f :: fs) [])
      | _ => leaf tag placeholder
    | v => leaf tag (scalarText v)

/-- The elements of fields in declaration order. -/
def renderFields (uri : String) : List Field → Members → List Element
  | [], _ => []
  | f :: fs, m =>
    (occurrences f.required (m.get? f.name)).map (renderField uri f) ++ renderFields uri fs m

end

/-- The tree of an envelope. -/
def envelopeTree (o : Operation) (d : Direction) (values : Members) (uri : String) : Element :=
  branch (qualified envelopeNamespace "Envelope")
    [branch (qualified envelopeNamespace "Body")
      [branch (qualified uri (wrapperName o.name d)) (renderFields uri (o.fieldsFor d) values)]]

/-- Why no envelope is built. -/
inductive BuildError where
  | direction (e : Wsdl.DirectionError)
  | write (e : Xml.WriteError)

/-- The wording of the failure. -/
def BuildError.message : BuildError → String
  | .direction e => e.message
  | .write e => e.message

/-- An envelope in one direction. -/
def buildIn (o : Operation) (d : Direction) (values : Members) (uri : String) :
    Except Xml.WriteError String :=
  Xml.render envelopePrefixes (envelopeTree o d values uri)

/-- An envelope in a direction given by a value. -/
def build (o : Operation) (direction : Value) (values : Members) (uri : String) :
    Except BuildError String :=
  match Direction.ofValue direction with
  | .error e => .error (.direction e)
  | .ok d =>
    match buildIn o d values uri with
    | .ok s => .ok s
    | .error e => .error (.write e)

end ContractDrift.Soap
