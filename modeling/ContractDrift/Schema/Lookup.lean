/-
Following references.

A `Scope` is where a reference is read: the URI of the resource around it and those of
the resources that led there.  `Scope.lookup` finds the schema that a reference names
and the scope of what is in it.

Design notes: a dynamic anchor is first found like any other; then the resources that
led there are asked for the same anchor, and the outermost one that has it wins.
-/
import ContractDrift.Schema.Resource
import ContractDrift.Json.Display
import ContractDrift.Text.Integer
import ContractDrift.Uri.Authority

namespace ContractDrift.Schema

open ContractDrift.Json (Value Members display)
open ContractDrift.Text (quoted)

/-- Why a reference leads nowhere. -/
inductive LookupFault where
  /-- No schema is known by the URI. -/
  | unresolvable (reference : String)
  | pointerToNowhere (pointer : String) (contents : Value)
  | noSuchAnchor (anchor : String) (contents : Value)
  | invalidAnchor (anchor : String)
  /-- An item of an array is asked for by something that is no number. -/
  | notAnIndex (segment : String)
  /-- The URI cannot be divided. -/
  | notAUri (fault : Uri.AuthorityFault)
  deriving Inhabited

namespace LookupFault

/-- The name of a fault. -/
def title : LookupFault → String
  | unresolvable _ => "Unresolvable"
  | pointerToNowhere _ _ => "PointerToNowhere"
  | noSuchAnchor _ _ => "NoSuchAnchor"
  | invalidAnchor _ => "InvalidAnchor"
  | notAnIndex _ => "ValueError"
  | notAUri _ => "ValueError"

/-- The wording of a fault. -/
def wording : LookupFault → String
  | unresolvable reference => reference
  | pointerToNowhere pointer contents =>
    let text := quoted pointer ++ " does not exist within " ++ display contents
    if pointer = "/" then
      text ++ ". The pointer '/' is a valid JSON Pointer but it points to an empty string " ++
        "property ''. If you intended to point to the entire resource, you should use '#'."
    else text
  | noSuchAnchor anchor contents =>
    quoted anchor ++ " does not exist within " ++ display contents
  | invalidAnchor anchor =>
    "'#" ++ anchor ++ "' is not a valid anchor, neither as a plain name anchor nor as a JSON " ++
      "Pointer. You may have intended to use '#/" ++ anchor ++ "', as the slash is required " ++
      "*before each segment* of a JSON pointer."
  | notAnIndex segment => "invalid literal for int() with base 10: " ++ quoted segment
  | notAUri fault => fault.message

/-- Whether the reference itself is at fault. -/
def isOfReference : LookupFault → Bool
  | notAnIndex _ => false
  | notAUri _ => false
  | _ => true

end LookupFault

/-- Where a reference is read. -/
structure Scope where
  base : String
  /-- The resources that led here, the nearest first. -/
  previous : List String
  deriving Repr, DecidableEq, Inhabited

namespace Scope

/-- The scope inside a schema: its identifier is resolved against the base. -/
def enter (s : Scope) (r : Resource) : Scope :=
  match r.id? with
  | some id => { s with base := Uri.join s.base id }
  | none => s

/-- The scope in a resource that a reference has led to. -/
def follow (s : Scope) (uri : String) : Scope :=
  if s.base ≠ "" && (s.previous.isEmpty || uri ≠ s.base) then ⟨uri, s.base :: s.previous⟩
  else { s with base := uri }

end Scope

/-- A step of a pointer: a member or an item. -/
inductive Segment where
  | key (k : String)
  | index (i : Int)
  deriving Repr, DecidableEq, Inhabited

/-- Whether the steps from a schema lead to a subschema of it. -/
def leadsToSubschema (d : Dialect) (target : Value) : List Segment → Bool
  | [] => true
  | .key k :: r =>
    if d.formPlaces.contains k && target.isObject then true
    else if d.wayValues.contains k then leadsToSubschema d target r
    else if d.places.maps.contains k || d.places.arrays.contains k then
      match r with
      | [] => false
      | _ :: r => leadsToSubschema d target r
    else false
  | .index _ :: _ => false

/-- The item of an array that an index names; a negative one counts from the end. -/
def itemAt? (xs : List Value) (i : Int) : Option Value :=
  let i := if i < 0 then i + xs.length else i
  if i < 0 then none else xs[i.toNat]?

private def unescapeSegment (cs : List Char) : String :=
  String.ofList
    (Text.replaceAll ['~', '0'] ['~'] (Text.replaceAll ['~', '1'] ['/'] cs))

/-- The value that the segments of a pointer lead to; `steps` are those since the last
subschema. -/
def follow (r : Resource) (pointer : String) (contents : Value) (scope : Scope)
    (steps : List Segment) : List (List Char) → Except LookupFault (Value × Scope)
  | [] => return (contents, scope)
  | cs :: rest => do
    let (segment, found) ← (match contents with
      | .array xs =>
        match Text.integer? cs with
        | some i => pure (Segment.index i, itemAt? xs i)
        | none => throw (.notAnIndex (String.ofList cs))
      | .object m =>
        let k := unescapeSegment cs
        pure (Segment.key k, Members.get? m k)
      | _ => pure (Segment.key "", none) : Except LookupFault (Segment × Option Value))
    match found with
    | none => throw (.pointerToNowhere pointer r.contents)
    | some v =>
      let steps := steps ++ [segment]
      let inner : Resource := ⟨v, r.dialect⟩
      if leadsToSubschema r.dialect v steps && inner.id?.isSome then
        follow r pointer v (scope.enter inner) [] rest
      else follow r pointer v scope steps rest

/-- The value that a pointer into a resource leads to. -/
def Resource.pointer (r : Resource) (pointer : String) (scope : Scope) :
    Except LookupFault (Value × Scope) :=
  let written := (Uri.decode (pointer.drop 1).toString).toList
  Schema.follow r pointer r.contents scope [] (Text.splitAll '/' written)

/-- The anchor of a resource. -/
def Index.anchor (x : Index) (uri name : String) : Except LookupFault Anchor :=
  let canonical := (x.resource? uri).bind (·.id?)
  let own := x.anchors.lookup (uri, name)
  match own.orElse fun _ => canonical.bind fun id => x.anchors.lookup (id, name) with
  | some a => .ok a
  | none =>
    let contents := ((x.resource? uri).map (·.contents)).getD .null
    if name.toList.contains '/' then .error (.invalidAnchor name)
    else .error (.noSuchAnchor name contents)

/-- The resource that has an anchor: of a dynamic one the outermost that has it. -/
def Index.anchored (x : Index) (scope : Scope) (a : Anchor) : Value × Scope :=
  if a.isDynamic then
    let outer := scope.previous.foldl (fun (last : Resource) uri =>
      match x.anchor uri a.name with
      | .ok b => if b.isDynamic then b.resource else last
      | .error _ => last) a.resource
    (outer.contents, scope.enter outer)
  else (a.resource.contents, scope)

/-- The schema that a reference names, and the scope in it. -/
def Index.lookup (x : Index) (scope : Scope) (reference : String) :
    Except LookupFault (Value × Scope) := do
  let (uri, fragment) :=
    if reference.startsWith "#" then (scope.base, (reference.drop 1).toString)
    else Uri.defragment (Uri.join scope.base reference)
  match x.resource? uri with
  | none => throw (.unresolvable reference)
  | some r =>
    let inner := scope.follow uri
    if fragment.startsWith "/" then r.pointer fragment inner
    else if fragment ≠ "" then return x.anchored inner (← x.anchor uri fragment)
    else return (r.contents, inner)

private def isRecursive (v : Value) : Bool :=
  match v.get? "$recursiveAnchor" with
  | some flag => flag.isTruthy
  | none => false

/-- The outermost of the resources that led here, as far as they let themselves be
extended. -/
def Index.outermost (x : Index) (scope : Scope) (found : Value × Scope) : List String →
    Except LookupFault (Value × Scope)
  | [] => return found
  | uri :: r => do
    let next ← x.lookup scope uri
    if isRecursive next.1 then x.outermost scope next r else return found

/-- The resource around, or the outermost one that it extends. -/
def Index.lookupRecursive (x : Index) (scope : Scope) : Except LookupFault (Value × Scope) := do
  let found ← x.lookup scope "#"
  if isRecursive found.1 then x.outermost scope found scope.previous else return found

end ContractDrift.Schema
