/-
Namespaces.

`Scope` maps prefixes to namespace names; the empty prefix stands for the default
namespace.  `Scope.bind` adds a declaration and refuses those that touch the two
reserved prefixes or names.  `Scope.expandElement?` and `Scope.expandAttribute?` give
the expanded form of a name, in which the namespace name stands in braces before the
local part.
-/
import ContractDrift.Xml.Fault
import ContractDrift.Text.Search

namespace ContractDrift.Xml

/-- The namespace of the prefix `xml`. -/
def xmlNamespace : List Char := "http://www.w3.org/XML/1998/namespace".toList

/-- The namespace of the prefix `xmlns`. -/
def xmlnsNamespace : List Char := "http://www.w3.org/2000/xmlns/".toList

/-- The bound prefixes, innermost first; a prefix bound to nothing is unbound. -/
abbrev Scope := List (List Char × Option (List Char))

/-- A name in its two parts; the prefix is empty where there is no colon. -/
structure Qualified where
  pfx : List Char
  localPart : List Char
  deriving Repr, DecidableEq, Inhabited

/-- The parts of a name with at most one colon. -/
def Qualified.of (name : List Char) : Qualified :=
  match Text.splitFirst ':' name with
  | some (p, l) => ⟨p, l⟩
  | none => ⟨[], name⟩

/-- The prefix that an attribute of this name declares; the empty one stands for the
default namespace. -/
def declaredPrefix? (name : List Char) : Option (List Char) :=
  if name = "xmlns".toList then some []
  else Text.dropPrefix? "xmlns:".toList name

namespace Scope

/-- The scope outside the root: only the prefix `xml` is bound. -/
def initial : Scope := [("xml".toList, some xmlNamespace)]

/-- The namespace bound to a prefix. -/
def find? (s : Scope) (pfx : List Char) : Option (List Char) :=
  (s.lookup pfx).join

/-- Binds a prefix to a namespace name. -/
def bind (s : Scope) (pfx uri : List Char) : Except Fault Scope :=
  let isXml := pfx == "xml".toList
  if uri.isEmpty && !pfx.isEmpty then .error .undeclaredPrefix
  else if pfx = "xmlns".toList then .error .reservedXmlnsPrefix
  else if uri.contains '\x7d' then .error .unexpectedToken
  else if isXml && uri != xmlNamespace then .error .reservedXmlPrefix
  else if !isXml && uri == xmlNamespace then .error .reservedNamespace
  else if uri == xmlnsNamespace then .error .reservedNamespace
  else .ok ((pfx, if uri.isEmpty then none else some uri) :: s)

/-- The expanded form of a name in a namespace. -/
def expanded (uri localPart : List Char) : String :=
  String.ofList ('\x7b' :: uri ++ '\x7d' :: localPart)

/-- The expanded form of an element's name, which is in the default namespace if it has
no prefix; nothing if the prefix is unbound. -/
def expandElement? (s : Scope) (name : List Char) : Option String :=
  let q := Qualified.of name
  match s.find? q.pfx with
  | some uri => some (expanded uri q.localPart)
  | none => if q.pfx.isEmpty then some (String.ofList name) else none

/-- The expanded form of an attribute's name, which is in no namespace if it has no
prefix; nothing if the prefix is unbound. -/
def expandAttribute? (s : Scope) (name : List Char) : Option String :=
  let q := Qualified.of name
  if q.pfx.isEmpty then some (String.ofList name)
  else (s.find? q.pfx).map fun uri => expanded uri q.localPart

/-- After a binding the prefix stands for the new name. -/
theorem find?_bind_self {s s' : Scope} {pfx uri : List Char} (h : s.bind pfx uri = .ok s') :
    s'.find? pfx = if uri.isEmpty then none else some uri := by
  simp only [bind] at h
  repeat' split at h
  all_goals first
    | (injection h with h; subst h; simp_all [find?])
    | (exact absurd h (by simp))

end Scope

end ContractDrift.Xml
