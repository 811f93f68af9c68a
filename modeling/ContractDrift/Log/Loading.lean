/-
Notes about what is read.

Each function gives the notes that come with one activity of the library, in the order in
which they are made: reading a file, fetching an address, and loading a description, a
schema or a directory of schemas.  An activity that fails has the notes up to its failure.
-/
import ContractDrift.Log.Note
import ContractDrift.Schema.Registry
import ContractDrift.Wsdl.Model

namespace ContractDrift.Log

open ContractDrift.Schema (Registry Loaded)
open ContractDrift.Text (Octets)

/-! ## Files and addresses -/

/-- The part that reads files and fetches addresses. -/
def resources : String := "schema_sentinel.core.resources"

/-- The notes on reading a file. -/
def ofReading (r : Files.Reader) (written : String) : List Note :=
  match r.resolve written, r.read written with
  | .ok p, .ok _ => [⟨resources, .debug, "Reading " ++ p.text⟩]
  | _, _ => []

/-- The notes on fetching an address. -/
def ofFetching (address : String) : List Note :=
  [⟨resources, .info, "Fetching live artifact: " ++ address⟩]

/-! ## Descriptions -/

/-- The part that loads descriptions. -/
def wsdlModel : String := "schema_sentinel.services.wsdl_model"

/-- The messages of operations for which no element is declared. -/
def undeclared (m : Wsdl.Model) : List String :=
  (m.operations.flatMap fun (name, _) =>
    [Wsdl.wrapperName name .input, Wsdl.wrapperName name .output]).filter fun wrapper =>
      (m.elements.lookup wrapper).isNone

/-- The notes on a description given by its root. -/
def ofDefinitions (root : Xml.Node) : List Note :=
  let m := Wsdl.Model.ofDefinitions root
  let other := if root.name = "definitions" then [] else
    [⟨wsdlModel, .warning, s!"WSDL root element is '{root.name}', expected 'definitions'"⟩]
  other ++
    (undeclared m).map (fun wrapper =>
      ⟨wsdlModel, .debug, "Element " ++ wrapper ++ " not declared in WSDL types"⟩) ++
    [⟨wsdlModel, .info,
      s!"Loaded WSDL model: {m.operations.length} operations, {m.elements.length} elements"⟩]

/-- The notes on loading a description. -/
def ofDescription (octets : Octets) : List Note :=
  match Xml.Node.parse octets with
  | .ok root => ofDefinitions root
  | .error _ => []

/-! ## Schemas -/

/-- The part that loads schemas. -/
def schemaRegistry : String := "schema_sentinel.services.schema_registry"

/-- The notes on entering a schema in a registry. -/
def ofEntering (r : Registry) (l : Loaded) : List Note :=
  let replaced := if r.contains l.id then
    [⟨schemaRegistry, .debug, "Replacing schema " ++ l.id⟩] else []
  replaced ++
    [⟨schemaRegistry, .info, "Loaded schema " ++ l.id ++ " (" ++ l.schema.dialect.title ++ ")"⟩]

/-- The notes on loading some files, up to the first that fails. -/
def ofSchemaFiles (reader : Files.Reader) (r : Registry) : List Files.Path → List Note
  | [] => []
  | p :: rest =>
    ofReading reader p.text ++
      match r.loadFile reader p.text (some (Schema.identifierOfFile (p.getLast?.getD ""))) with
      | .error _ => []
      | .ok (l, r') => ofEntering r l ++ ofSchemaFiles reader r' rest

/-- The notes on loading the schemas of a directory. -/
def ofSchemaDirectory (reader : Files.Reader) (r : Registry) (directory : String) : List Note :=
  match reader.list directory "*.json" with
  | .ok paths => ofSchemaFiles reader r paths
  | .error _ => []

end ContractDrift.Log
