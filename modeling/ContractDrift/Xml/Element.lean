/-
Elements and how they are built.

An `Element` has an expanded name, its attributes, its leading text and its child
elements; text after a child is not kept.  A `Builder` holds the elements that are
open while a document is read.
-/
import ContractDrift.Xml.Namespace

namespace ContractDrift.Xml

/-- An element of a document. -/
inductive Element where
  | mk (name : String) (attributes : List (String × String)) (text : String)
    (children : List Element)
  deriving Inhabited

mutual

/-- Whether two elements are equal. -/
def Element.decEq : (e e' : Element) → Decidable (e = e')
  | .mk name attributes text children, .mk name' attributes' text' children' =>
    match instDecidableEqString name name', instDecidableEqList attributes attributes',
        instDecidableEqString text text', Element.decEqAll children children' with
    | isTrue hn, isTrue ha, isTrue ht, isTrue hc => isTrue (by rw [hn, ha, ht, hc])
    | isFalse hn, _, _, _ => isFalse fun h => hn (by injection h)
    | _, isFalse ha, _, _ => isFalse fun h => ha (by injection h)
    | _, _, isFalse ht, _ => isFalse fun h => ht (by injection h)
    | _, _, _, isFalse hc => isFalse fun h => hc (by injection h)

/-- Whether two lists of elements are equal. -/
def Element.decEqAll : (es es' : List Element) → Decidable (es = es')
  | [], [] => isTrue rfl
  | e :: es, e' :: es' =>
    match Element.decEq e e', Element.decEqAll es es' with
    | isTrue h, isTrue hs => isTrue (by rw [h, hs])
    | isFalse h, _ => isFalse fun heq => h (List.cons.inj heq).1
    | _, isFalse hs => isFalse fun heq => hs (List.cons.inj heq).2
  | [], _ :: _ => isFalse (by simp)
  | _ :: _, [] => isFalse (by simp)

end

instance : DecidableEq Element := Element.decEq

namespace Element

/-- The expanded name. -/
def name : Element → String
  | .mk n _ _ _ => n

/-- The attributes with their expanded names. -/
def attributes : Element → List (String × String)
  | .mk _ a _ _ => a

/-- The text before the first child. -/
def text : Element → String
  | .mk _ _ t _ => t

/-- The child elements. -/
def children : Element → List Element
  | .mk _ _ _ c => c

end Element

/-- An element whose end tag has not been read: its name as written and expanded, its
attributes, its text and children so far (newest first), and the scope around it. -/
structure OpenElement where
  writtenName : List Char
  name : String
  attributes : List (String × String)
  text : List Char
  children : List Element
  outerScope : Scope
  deriving Inhabited

/-- The element, now that it is complete. -/
def OpenElement.close (e : OpenElement) : Element :=
  .mk e.name e.attributes (String.ofList e.text.reverse) e.children.reverse

/-- A document while it is read: the open elements, innermost first, the bindings in
force, and the root once it is closed. -/
structure Builder where
  opened : List OpenElement
  scope : Scope
  root : Option Element
  deriving Inhabited

namespace Builder

/-- Nothing read. -/
def initial : Builder := ⟨[], Scope.initial, none⟩

/-- How many elements are open. -/
def depth (b : Builder) : Nat := b.opened.length

/-- Opens an element inside the innermost open one. -/
def start (b : Builder) (writtenName : List Char) (name : String)
    (attributes : List (String × String)) (scope : Scope) : Builder :=
  { b with opened := ⟨writtenName, name, attributes, [], [], b.scope⟩ :: b.opened, scope := scope }

/-- Adds character data; only what comes before the first child is kept. -/
def data (b : Builder) (cs : List Char) : Builder :=
  match b.opened with
  | [] => b
  | e :: r =>
    if e.children.isEmpty then { b with opened := { e with text := cs.reverse ++ e.text } :: r }
    else b

/-- Closes the innermost open element. -/
def finish (b : Builder) : Builder :=
  match b.opened with
  | [] => b
  | [e] => { b with opened := [], scope := e.outerScope, root := some e.close }
  | e :: p :: r =>
    { b with
      opened := { p with children := e.close :: p.children } :: r
      scope := e.outerScope }

theorem depth_start (b : Builder) (w : List Char) (n : String) (a : List (String × String))
    (s : Scope) : (b.start w n a s).depth = b.depth + 1 := by
  simp [start, depth]

theorem depth_data (b : Builder) (cs : List Char) : (b.data cs).depth = b.depth := by
  unfold data depth
  split
  · rfl
  · split <;> simp_all

theorem depth_finish (b : Builder) : b.finish.depth = b.depth - 1 := by
  unfold finish depth
  split <;> simp_all

end Builder

end ContractDrift.Xml
