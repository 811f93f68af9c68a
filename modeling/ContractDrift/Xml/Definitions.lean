/-
What the prolog of a document declares.

`Definitions` holds the general entities and the attribute declarations of each
element type, with the flags that decide whether an entity without a declaration is
an error (`mustDeclare`) and whether further declarations are taken in
(`takesDeclarations`): after a reference to a parameter entity they are not, unless
the document stands alone.
-/
import ContractDrift.Xml.Glyph

namespace ContractDrift.Xml

/-- A general entity. -/
inductive Entity where
  /-- An entity whose text stands in the prolog. -/
  | internal (text : List Char)
  /-- An entity whose text stands elsewhere. -/
  | external
  /-- An entity that is no text. -/
  | binary
  deriving Repr, DecidableEq, Inhabited

/-- A declared attribute of an element type: whether it is plain character data, and
its value where none is written. -/
structure DeclaredAttribute where
  name : List Char
  isCharacterData : Bool
  default : Option (List Char)
  deriving Repr, DecidableEq, Inhabited

/-- What the prolog declares. -/
structure Definitions where
  entities : List (List Char × Entity)
  attributes : List (List Char × List DeclaredAttribute)
  /-- Whether the document declares that it needs nothing from outside. -/
  standalone : Bool
  /-- Whether the prolog points to declarations outside the document. -/
  hasOutsideParts : Bool
  takesDeclarations : Bool
  deriving Repr, DecidableEq, Inhabited

namespace Definitions

/-- Nothing declared. -/
def empty : Definitions := ⟨[], [], false, false, true⟩

/-- The entity of a name. -/
def entity? (d : Definitions) (name : List Char) : Option Entity :=
  (d.entities.find? (·.1 == name)).map (·.2)

/-- Adds an entity; the first declaration of a name counts. -/
def addEntity (d : Definitions) (name : List Char) (e : Entity) : Definitions :=
  if (d.entity? name).isSome then d else { d with entities := d.entities ++ [(name, e)] }

/-- The declared attributes of an element type. -/
def attributesOf (d : Definitions) (element : List Char) : List DeclaredAttribute :=
  ((d.attributes.find? (·.1 == element)).map (·.2)).getD []

/-- Adds a declared attribute.  One with a value, or one that is an identifier, is
left out when its name is already declared. -/
def addAttribute (d : Definitions) (element : List Char) (a : DeclaredAttribute)
    (isIdentifier : Bool) : Definitions :=
  let known := d.attributesOf element
  if (a.default.isSome || isIdentifier) && known.any (·.name == a.name) then d
  else
    let rest := d.attributes.filter (·.1 != element)
    { d with attributes := rest ++ [(element, known ++ [a])] }

/-- Whether an attribute of an element type is plain character data; it is where it is
not declared. -/
def isCharacterData (d : Definitions) (element name : List Char) : Bool :=
  match (d.attributesOf element).find? (·.name == name) with
  | some a => a.isCharacterData
  | none => true

/-- Whether an entity must have a declaration. -/
def mustDeclare (d : Definitions) : Bool := d.standalone || !d.hasOutsideParts

/-- An entity that was added is found, unless the name had one before. -/
theorem entity?_addEntity_self (d : Definitions) (name : List Char) (e : Entity)
    (h : d.entity? name = none) : (d.addEntity name e).entity? name = some e := by
  have hnone : d.entities.find? (·.1 == name) = none := by
    simpa [entity?] using h
  simp [addEntity, entity?, List.find?_append, hnone]

end Definitions

end ContractDrift.Xml
