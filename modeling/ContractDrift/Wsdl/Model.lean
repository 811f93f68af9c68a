/-
The structure that a service description declares.

`Model.ofDefinitions` collects the element declarations of a description and the
operations of its bindings; the messages of an operation are the elements named after
it.  Of several declarations or operations of one name the first counts.

Design notes: the fields of an element stand in the first sequence of its first
complex type.  The four readers of fields go down the tree together: from an element
to its types, to its sequences, to its items, and from an item to its own types.
-/
import ContractDrift.Wsdl.Operation
import ContractDrift.Xml.Node

namespace ContractDrift.Wsdl

open ContractDrift.Xml (Node)

/-- The type of a field that declares none. -/
def defaultType : String := "complex"

/-- The value of an attribute that is there and not empty. -/
def nonEmptyAttribute? (attributes : List (String × String)) (key : String) : Option String :=
  match attributes.lookup key with
  | some "" => none
  | v => v

/-- Whether the attributes of an item make its field required: all but a literal zero
for the least number of occurrences do. -/
def isRequired (attributes : List (String × String)) : Bool :=
  attributes.lookup "minOccurs" != some "0"

mutual

/-- The fields of the first complex type among some nodes; nothing if there is none. -/
def typeFields? : List Node → Option (List Field)
  | [] => none
  | .mk name _ children _ :: r =>
    if name = "complexType" then some (sequenceFields children) else typeFields? r
termination_by nodes => sizeOf nodes
decreasing_by all_goals simp only [List.cons.sizeOf_spec, Node.mk.sizeOf_spec]; omega

/-- The fields of the first sequence among some nodes. -/
def sequenceFields : List Node → List Field
  | [] => []
  | .mk name _ children _ :: r =>
    if name = "sequence" then itemFields children else sequenceFields r
termination_by nodes => sizeOf nodes
decreasing_by all_goals simp only [List.cons.sizeOf_spec, Node.mk.sizeOf_spec]; omega

/-- The fields of the named elements among some nodes, in order. -/
def itemFields : List Node → List Field
  | [] => []
  | .mk name attributes children _ :: r =>
    if name = "element" then
      match nonEmptyAttribute? attributes "name" with
      | some fieldName =>
        .mk fieldName ((nonEmptyAttribute? attributes "type").getD defaultType)
          (isRequired attributes) (typeFields? children) :: itemFields r
      | none => itemFields r
    else itemFields r
termination_by nodes => sizeOf nodes
decreasing_by all_goals simp only [List.cons.sizeOf_spec, Node.mk.sizeOf_spec]; omega

end

/-- The fields that a declared element has. -/
def fieldsOf (element : Node) : List Field := (typeFields? element.children).getD []

/-- What a service description declares: its elements and operations by name, each in
the order of first appearance. -/
structure Model where
  elements : List (String × Node)
  operations : List (String × Operation)
  deriving Inhabited

/-- Adds an entry unless its name is taken. -/
def addFirst {α : Type} (entries : List (String × α)) (name : String) (value : α) :
    List (String × α) :=
  if (entries.lookup name).isSome then entries else entries ++ [(name, value)]

/-- The element declarations of a description. -/
def elementsOf (definitions : Node) : List (String × Node) :=
  let declared := (definitions.findAll ["types", "schema"]).flatMap (·.childrenNamed "element")
  declared.foldl (fun acc e =>
    match nonEmptyAttribute? e.attributes "name" with
    | some name => addFirst acc name e
    | none => acc) []

/-- The fields of a message whose wrapper has the given name. -/
def messageFields (elements : List (String × Node)) (wrapper : String) : List Field :=
  match elements.lookup wrapper with
  | some e => fieldsOf e
  | none => []

/-- The action that a node of a binding gives its operation. -/
def actionOf (operation : Node) : String :=
  match operation.child "operation" with
  | some o => (o.attr "soapAction").getD ""
  | none => ""

/-- The operation that a node of a binding describes. -/
def operationOf (elements : List (String × Node)) (name : String) (node : Node) : Operation :=
  ⟨name, actionOf node, messageFields elements (wrapperName name .input),
    messageFields elements (wrapperName name .output)⟩

/-- The operations of a description. -/
def operationsOf (definitions : Node) (elements : List (String × Node)) :
    List (String × Operation) :=
  (definitions.findAll ["binding", "operation"]).foldl (fun acc node =>
    match nonEmptyAttribute? node.attributes "name" with
    | some name => addFirst acc name (operationOf elements name node)
    | none => acc) []

namespace Model

/-- The model of a description given by its root. -/
def ofDefinitions (definitions : Node) : Model :=
  let elements := elementsOf definitions
  ⟨elements, operationsOf definitions elements⟩

/-- The model of a description given by its octets. -/
def load (octets : Text.Octets) : Except Xml.DocumentError Model :=
  (Node.parse octets).map ofDefinitions

/-- The operation of a name. -/
def operation? (m : Model) (name : String) : Option Operation := m.operations.lookup name

/-- The names of the operations, in order of first appearance. -/
def operationNames (m : Model) : List String := m.operations.map (·.1)

/-- Whether there is an operation of a name. -/
def contains (m : Model) (name : String) : Bool := (m.operation? name).isSome

/-- How many operations there are. -/
def size (m : Model) : Nat := m.operations.length

/-- The operations, in order of first appearance. -/
def allOperations (m : Model) : List Operation := m.operations.map (·.2)

/-- The operations in the order of their names. -/
def sortedOperations (m : Model) : List Operation :=
  (m.operations.map (·.2)).mergeSort fun a b => Text.le a.name b.name

end Model

end ContractDrift.Wsdl
