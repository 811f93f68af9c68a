/-
Trees without namespaces.

A `Node` is an element whose name and attribute names have lost their namespace, in
the expanded form as well as in the form with a prefix (`localName`).  The accessors
answer nothing where there is nothing: `child` gives the first child of a name,
`childrenNamed` all of them, `find` follows a path by first children and `findAll` by
all children.  `Node.parse` reads a document into a tree, by its octets (`Given.toOctets`).
-/
import ContractDrift.Xml.Document
import ContractDrift.Text.Blank

namespace ContractDrift.Xml

/-- A node of a tree: a name, the attributes by name, the children and the text. -/
inductive Node where
  | mk (name : String) (attributes : List (String × String)) (children : List Node)
    (text : String)
  deriving Inhabited

mutual

/-- Whether two trees are equal. -/
def Node.decEq : (n n' : Node) → Decidable (n = n')
  | .mk name attributes children text, .mk name' attributes' children' text' =>
    match instDecidableEqString name name', instDecidableEqList attributes attributes',
        Node.decEqAll children children', instDecidableEqString text text' with
    | isTrue hn, isTrue ha, isTrue hc, isTrue ht => isTrue (by rw [hn, ha, hc, ht])
    | isFalse hn, _, _, _ => isFalse fun h => hn (by injection h)
    | _, isFalse ha, _, _ => isFalse fun h => ha (by injection h)
    | _, _, isFalse hc, _ => isFalse fun h => hc (by injection h)
    | _, _, _, isFalse ht => isFalse fun h => ht (by injection h)

/-- Whether two lists of trees are equal. -/
def Node.decEqAll : (ns ns' : List Node) → Decidable (ns = ns')
  | [], [] => isTrue rfl
  | n :: ns, n' :: ns' =>
    match Node.decEq n n', Node.decEqAll ns ns' with
    | isTrue h, isTrue hs => isTrue (by rw [h, hs])
    | isFalse h, _ => isFalse fun heq => h (List.cons.inj heq).1
    | _, isFalse hs => isFalse fun heq => hs (List.cons.inj heq).2
  | [], _ :: _ => isFalse (by simp)
  | _ :: _, [] => isFalse (by simp)

end

instance : DecidableEq Node := Node.decEq

/-- A name that opens a brace and does not close it. -/
inductive NameError where
  | unclosedNamespace
  deriving Repr, DecidableEq

/-- The wording of the failure. -/
def NameError.message : NameError → String
  | .unclosedNamespace => "list index out of range"

/-- What follows the last colon. -/
def afterLastColon (cs : List Char) : List Char :=
  match Text.splitLast ':' cs with
  | some (_, l) => l
  | none => cs

/-- A name without its namespace in braces and without its prefix. -/
def localChars (cs : List Char) : Except NameError (List Char) :=
  match cs with
  | '\x7b' :: _ =>
    match Text.splitFirst '\x7d' cs with
    | some (_, r) => .ok (afterLastColon r)
    | none => .error .unclosedNamespace
  | _ => .ok (afterLastColon cs)

/-- A name without its namespace. -/
def localName (name : String) : Except NameError String :=
  (localChars name.toList).map String.ofList

/-- Sets a key of a list of pairs, in place if it is there. -/
def setPair (key value : String) : List (String × String) → List (String × String)
  | [] => [(key, value)]
  | (k, v) :: r => if k = key then (k, value) :: r else (k, v) :: setPair key value r

/-- The local form of an element's or attribute's expanded name, which always closes its
brace. -/
def plainName (name : String) : String := (localName name).toOption.getD name

/-- Attributes by local name; of two with one local name the later counts, at the place
of the earlier. -/
def localAttributes (attributes : List (String × String)) : List (String × String) :=
  attributes.foldl (fun acc (k, v) => setPair (plainName k) v acc) []

mutual

/-- The tree of an element. -/
def Node.ofElement : Element → Node
  | .mk name attributes text children =>
    .mk (plainName name) (localAttributes attributes) (Node.ofElements children) (Text.trim text)

/-- The trees of elements. -/
def Node.ofElements : List Element → List Node
  | [] => []
  | e :: es => Node.ofElement e :: Node.ofElements es

end

namespace Node

/-- The name without its namespace. -/
def name : Node → String
  | .mk n _ _ _ => n

/-- The attributes by name. -/
def attributes : Node → List (String × String)
  | .mk _ a _ _ => a

/-- The children in document order. -/
def children : Node → List Node
  | .mk _ _ c _ => c

/-- The text before the first child, without blanks at its ends. -/
def text : Node → String
  | .mk _ _ _ t => t

/-- The value of an attribute. -/
def attr (n : Node) (key : String) : Option String := n.attributes.lookup key

/-- The first child of a name. -/
def child (n : Node) (name : String) : Option Node := n.children.find? (·.name == name)

/-- The children of a name. -/
def childrenNamed (n : Node) (name : String) : List Node := n.children.filter (·.name == name)

/-- The names of the children. -/
def childNames (n : Node) : List String := n.children.map (·.name)

/-- Follows a path of names, taking the first child at each step. -/
def find (n : Node) : List String → Option Node
  | [] => some n
  | name :: path =>
    match n.child name with
    | some c => c.find path
    | none => none

/-- Follows a path of names from each of some nodes, taking every child at each step. -/
def findAllFrom : List Node → List String → List Node
  | nodes, [] => nodes
  | nodes, name :: path => findAllFrom (nodes.flatMap (·.childrenNamed name)) path

/-- The nodes that a path of names reaches. -/
def findAll (n : Node) (path : List String) : List Node := findAllFrom [n] path

end Node

/-- Why a document gives no tree. -/
inductive DocumentError where
  | empty
  | unreadable (e : ReadError)
  deriving Repr, DecidableEq, Inhabited

/-- The wording of a refusal. -/
def DocumentError.message : DocumentError → String
  | .empty => "Empty XML document"
  | .unreadable (.malformed f line column) =>
    "Malformed XML: " ++ (ReadError.malformed f line column).message
  | .unreadable e => e.message

/-- Whether a document is refused for what it says, and not for the way its characters are
written. -/
def DocumentError.isOfContent : DocumentError → Bool
  | .empty => true
  | .unreadable (.malformed _ _ _) => true
  | .unreadable _ => false

/-- A document as a caller gives it. -/
inductive Given where
  | text (s : String)
  | octets (bs : Text.Octets)
  deriving Repr, DecidableEq, Inhabited

/-- The octets that are read for a document.  A text is written in UTF-8, whatever it declares. -/
def Given.toOctets : Given → Text.Octets
  | .text s => Text.utf8 s
  | .octets bs => bs

/-- Reads octets into a tree. -/
def Node.parse (octets : Text.Octets) : Except DocumentError Node :=
  if octets.all Text.isBlankOctet then .error .empty
  else match Document.read octets with
    | .ok e => .ok (Node.ofElement e)
    | .error e => .error (.unreadable e)

end ContractDrift.Xml
