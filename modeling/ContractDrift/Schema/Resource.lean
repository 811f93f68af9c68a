/-
Schemas as resources: what a reference can lead to.

A `Resource` is a schema in its dialect.  It can have an identifier, against which the
references in it are resolved, and anchors, and it holds subresources.  An `Index`
lists the resources and anchors that are known by URI.

Design notes: a resource's places for subschemas depend on the dialect only.  The
index is built once, from all the subresources of the schemas in it; the search of a
URI finds the schema that was put in first.
-/
import ContractDrift.Schema.Dialect

namespace ContractDrift.Schema

open ContractDrift.Json (Value Members)

/-- A schema in a dialect. -/
structure Resource where
  contents : Value
  dialect : Dialect
  deriving Inhabited

/-- A name for a resource; a dynamic one can be taken over by an outer resource. -/
structure Anchor where
  name : String
  resource : Resource
  isDynamic : Bool
  deriving Inhabited

/-- Where the subschemas of a schema are: in a member, in each item of a member or in each
member of a member. -/
structure Places where
  values : List String
  arrays : List String
  maps : List String
  deriving Repr, Inhabited

/-- The places of a dialect, those apart that are subschemas only in certain forms. -/
def Dialect.places : Dialect → Places
  | .draft3 => ⟨[], ["extends"], ["definitions", "patternProperties", "properties"]⟩
  | .draft4 =>
    ⟨["not"], ["allOf", "anyOf", "oneOf"], ["definitions", "patternProperties", "properties"]⟩
  | .draft6 =>
    ⟨["additionalItems", "additionalProperties", "contains", "not", "propertyNames"],
     ["allOf", "anyOf", "oneOf"], ["definitions", "patternProperties", "properties"]⟩
  | .draft7 =>
    ⟨["additionalItems", "additionalProperties", "contains", "else", "if", "not",
      "propertyNames", "then"],
     ["allOf", "anyOf", "oneOf"], ["definitions", "patternProperties", "properties"]⟩
  | .draft2019 =>
    ⟨["additionalItems", "additionalProperties", "contains", "contentSchema", "else", "if",
      "not", "propertyNames", "then", "unevaluatedItems", "unevaluatedProperties"],
     ["allOf", "anyOf", "oneOf"],
     ["$defs", "definitions", "dependentSchemas", "patternProperties", "properties"]⟩
  | .draft2020 =>
    ⟨["additionalProperties", "contains", "contentSchema", "else", "if", "items", "not",
      "propertyNames", "then", "unevaluatedItems", "unevaluatedProperties"],
     ["allOf", "anyOf", "oneOf", "prefixItems"],
     ["$defs", "definitions", "dependentSchemas", "patternProperties", "properties"]⟩

/-- The members that hold a subschema when they are objects, on the way to a place. -/
def Dialect.formPlaces : Dialect → List String
  | .draft2019 => ["items"]
  | .draft2020 => []
  | _ => ["items", "dependencies"]

/-- The values that are subschemas on the way to a place. -/
def Dialect.wayValues : Dialect → List String
  | .draft3 => ["additionalItems", "additionalProperties"]
  | .draft4 => ["additionalItems", "additionalProperties", "not"]
  | d => d.places.values

namespace Resource

/-- The identifier as it is written, if the resource has one. -/
def writtenId? (r : Resource) : Option String :=
  match r.contents with
  | .object m =>
    if r.dialect.hasPlainId && Members.has m "$ref" then none
    else match Members.get? m (if r.dialect.hasPlainId then "id" else "$id") with
      | some (.text id) =>
        if r.dialect.refStandsAlone && id.startsWith "#" then none else some id
      | _ => none
  | _ => none

/-- The identifier of a resource, if it has one. -/
def id? (r : Resource) : Option String := r.writtenId?.map Dialect.withoutHash

/-- The members of the members that are objects and hold subschemas in certain forms. -/
def formSubschemas (d : Dialect) (m : Members) : List Value :=
  let items := match m.get? "items" with
    | some (.array xs) => xs
    | some .null => []
    | some v => [v]
    | none => []
  let dependencies := match m.get? "dependencies" with
    | some (.object ((k, .object v) :: r)) => ((k, Value.object v) :: r).map (·.2)
    | _ => []
  let additional := ["additionalItems", "additionalProperties"].filterMap fun k =>
    (m.get? k).bind fun v => if v.isObject then some v else none
  match d with
  | .draft3 => items ++ dependencies ++ additional
  | .draft4 => items ++ dependencies ++ additional
  | .draft6 => items ++ dependencies
  | .draft7 => items ++ dependencies
  | .draft2019 => items
  | .draft2020 => []

/-- The subschemas of a schema. -/
def subschemas (d : Dialect) : Value → List Value
  | .object m =>
    let p := d.places
    let present (keys : List String) : List Value := keys.filterMap (Members.get? m)
    present p.values ++
      (present p.arrays).flatMap (fun v => v.items?.getD []) ++
      (present p.maps).flatMap (fun v => (v.members?.getD []).map (·.2)) ++
      formSubschemas d m
  | _ => []

/-- A subschema as a resource: in the dialect it names, else in the given one. -/
def ofSubschema (d : Dialect) (schema : Value) : Resource :=
  match schema.get? "$schema" with
  | some (.text written) => ⟨schema, (Dialect.ofExactUri? written).getD d⟩
  | _ => ⟨schema, d⟩

/-- The resources in a resource, one level down. -/
def subresources (r : Resource) : List Resource :=
  (subschemas r.dialect r.contents).map (ofSubschema r.dialect)

/-- The anchors of a resource. -/
def anchors (r : Resource) : List Anchor :=
  let named (key : String) (isDynamic : Bool) : List Anchor :=
    match r.contents.get? key with
    | some (.text name) => [⟨name, r, isDynamic⟩]
    | _ => []
  let fromId (key : String) : List Anchor :=
    match r.contents.get? key with
    | some (.text id) => if id.startsWith "#" then [⟨(id.drop 1).toString, r, false⟩] else []
    | _ => []
  match r.dialect with
  | .draft3 => fromId "id"
  | .draft4 => fromId "id"
  | .draft6 => fromId "$id"
  | .draft7 => fromId "$id"
  | .draft2019 => named "$anchor" false
  | .draft2020 => named "$anchor" false ++ named "$dynamicAnchor" true

end Resource

/-- The resources and the anchors that are known, by URI. -/
structure Index where
  resources : List (String × Resource)
  anchors : List ((String × String) × Anchor)
  deriving Inhabited

namespace Index

/-- What both know; the first is asked first. -/
def append (a b : Index) : Index := ⟨a.resources ++ b.resources, a.anchors ++ b.anchors⟩

mutual

/-- The number of levels of a value. -/
def levels : Value → Nat
  | .array xs => levelsOfItems xs + 1
  | .object m => levelsOfMembers m + 1
  | _ => 1

/-- The greatest number of levels of some items. -/
def levelsOfItems : List Value → Nat
  | [] => 0
  | x :: r => max (levels x) (levelsOfItems r)

/-- The greatest number of levels of some members. -/
def levelsOfMembers : List (String × Value) → Nat
  | [] => 0
  | (_, v) :: r => max (levels v) (levelsOfMembers r)

end

/-- What a resource and all below it make known; `uri` is that of the resource around. -/
def collect : (depth : Nat) → (uri : String) → Resource → Index
  | 0, _, _ => ⟨[], []⟩
  | n + 1, uri, r =>
    let here := match r.id? with
      | some id => Uri.join uri id
      | none => uri
    let own : Index :=
      ⟨if r.id?.isSome then [(here, r)] else [], r.anchors.map fun a => ((here, a.name), a)⟩
    r.subresources.foldl (fun acc s => acc.append (collect n here s)) own

/-- What a resource makes known when it is put in under a URI. -/
def ofResource (uri : String) (r : Resource) : Index :=
  (⟨[(Dialect.withoutHash uri, r)], []⟩ : Index).append
    (collect (levels r.contents + 1) (Dialect.withoutHash uri) r)

/-- The resource that a URI stands for. -/
def resource? (x : Index) (uri : String) : Option Resource := x.resources.lookup uri

/-- The schemas of all dialects. -/
def standard : Index :=
  MetaSchema.all.foldl (fun acc schema =>
    let r := Resource.ofSubschema .draft2020 schema
    acc.append (ofResource (r.id?.getD "") r)) ⟨[], []⟩

end Index

end ContractDrift.Schema
