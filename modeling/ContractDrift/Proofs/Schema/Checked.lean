/-
What the check of a schema establishes.

Three dialects have a schema that is one document and refers to itself wherever a schema can stand
(`IsClassic`).  If it accepts a schema, it accepts those that the keywords of the latter hold, at
least six levels further down (`Checks.subschema`), and none of them has a fault that a check
looks at (`not_checkedFault`).
-/
import Mathlib.Data.List.DropRight
import ContractDrift.Proofs.Schema.Acceptance
import ContractDrift.Proofs.Schema.Location

namespace ContractDrift.Schema

open ContractDrift.Json (Value Members)

/-- The dialects whose schema is one document that accepts objects and refers to itself. -/
def IsClassic (d : Dialect) : Prop := d = .draft4 ∨ d = .draft6 ∨ d = .draft7

namespace Dialect

/-- The members of the schema of a dialect. -/
def rules (d : Dialect) : Members := d.metaSchema.members?.getD []

/-- The URI of the schema of a dialect. -/
def base (d : Dialect) : String := (⟨d.metaSchema, d⟩ : Resource).id?.getD ""

/-- What the check of a schema takes for granted. -/
def setting (d : Dialect) : Setting :=
  ⟨(Index.ofResource d.base ⟨d.metaSchema, d⟩).append Index.standard, [.regex]⟩

/-- Where the schema of a dialect is evaluated: at first, and after a reference. -/
def scopes (d : Dialect) : List Scope := [⟨d.base, []⟩, ⟨d.base, [d.base]⟩]

/-- What the schema of a dialect has to say about a member. -/
def property? (d : Dialect) (k : String) : Option Value :=
  (d.rules.get? "properties").bind (·.get? k)

/-- What the schema of a dialect gives a name to. -/
def definition (d : Dialect) (name : String) : Members :=
  (((d.rules.get? "definitions").bind (·.get? name)).bind Value.members?).getD []

end Dialect

/-- The names of definitions in the schemas of dialects. -/
def definitionNames : List String := ["schemaArray", "simpleTypes", "stringArray"]

section Lookup

variable {x : Index} {sc : Scope} {r : Resource} {d : Dialect}

/-- How the references in the schemas of dialects are written. -/
theorem written_references :
    ("#".startsWith "#" = true ∧ ("#".drop 1).toString = "" ∧ "".startsWith "/" = false) ∧
      ∀ name ∈ definitionNames, ("#/definitions/" ++ name).startsWith "#" = true ∧
        (("#/definitions/" ++ name).drop 1).toString = "/definitions/" ++ name ∧
        ("/definitions/" ++ name).startsWith "/" = true ∧
        Text.splitAll '/' (Uri.decode (("/definitions/" ++ name).drop 1).toString).toList =
          ["definitions".toList, name.toList] := by
  decide +kernel

theorem lookup_hash (h : x.resource? sc.base = some r) :
    x.lookup sc "#" = .ok (r.contents, sc.follow sc.base) := by
  obtain ⟨⟨hstart, hdrop, hslash⟩, -⟩ := written_references
  unfold Index.lookup
  simp only [hstart, if_true, hdrop, h, hslash, ne_eq, not_true_eq_false, if_false,
    Bool.false_eq_true]
  rfl

theorem lookup_pointer {reference fragment : String} (h : x.resource? sc.base = some r)
    (hstart : reference.startsWith "#" = true) (hdrop : (reference.drop 1).toString = fragment)
    (hslash : fragment.startsWith "/" = true) :
    x.lookup sc reference = r.pointer fragment (sc.follow sc.base) := by
  unfold Index.lookup
  simp only [hstart, if_true, hdrop, h, hslash]

theorem metaSchema_eq (hd : IsClassic d) : d.metaSchema = .object d.rules := by
  rcases hd with rfl | rfl | rfl <;> rfl

theorem withoutHash_withoutHash (s : String) :
    Dialect.withoutHash (Dialect.withoutHash s) = Dialect.withoutHash s := by
  simp [Dialect.withoutHash, List.dropWhile_idempotent]

theorem withoutHash_base (d : Dialect) : Dialect.withoutHash d.base = d.base := by
  unfold Dialect.base Resource.id?
  cases (⟨d.metaSchema, d⟩ : Resource).writtenId? with
  | none => rfl
  | some id => exact withoutHash_withoutHash id

theorem resource?_base (hd : IsClassic d) :
    d.setting.index.resource? d.base = some ⟨.object d.rules, d⟩ := by
  simp [Dialect.setting, Index.resource?, Index.append, Index.ofResource, withoutHash_base,
    metaSchema_eq hd]

/-- The schema of a dialect has a URI and names the dialect itself. -/
theorem base_rules (hd : IsClassic d) : d.base ≠ "" ∧ d.ofSchema (.object d.rules) = d := by
  rcases hd with rfl | rfl | rfl <;> decide +kernel

theorem follow_base (hd : IsClassic d) (hsc : sc ∈ d.scopes) :
    sc.follow sc.base = ⟨d.base, [d.base]⟩ := by
  have hbase := (base_rules hd).1
  rcases List.mem_pair.mp hsc with rfl | rfl <;> simp [Scope.follow, hbase]

theorem base_of_mem_scopes (hsc : sc ∈ d.scopes) : sc.base = d.base := by
  rcases List.mem_pair.mp hsc with rfl | rfl <;> rfl

theorem lookup_root (hd : IsClassic d) (hsc : sc ∈ d.scopes) :
    d.setting.index.lookup sc "#" = .ok (.object d.rules, ⟨d.base, [d.base]⟩) := by
  rw [lookup_hash (base_of_mem_scopes hsc ▸ resource?_base hd), follow_base hd hsc]

theorem lookup_definition (hd : IsClassic d) (hsc : sc ∈ d.scopes) {name : String}
    (hname : name ∈ definitionNames) :
    d.setting.index.lookup sc ("#/definitions/" ++ name) =
      .ok (.object (d.definition name), ⟨d.base, [d.base]⟩) := by
  obtain ⟨hstart, hdrop, hslash, hsegments⟩ := written_references.2 name hname
  rw [lookup_pointer (base_of_mem_scopes hsc ▸ resource?_base hd) hstart hdrop hslash,
    follow_base hd hsc, Resource.pointer, hsegments]
  simp only [definitionNames, List.mem_cons, List.not_mem_nil, or_false] at hname
  rcases hd with rfl | rfl | rfl <;> rcases hname with rfl | rfl | rfl <;> rfl

end Lookup

/-! ## What the schema of a dialect accepts -/

/-- The schema of a dialect, or one that it applies, accepts a document. -/
def Checks (d : Dialect) (n : Nat) (s : Members) (v : Value) : Prop :=
  ∃ sc ∈ d.scopes, Accepts d.setting ⟨d, sc⟩ n s v

/-- The schema that a reference stands for. -/
def referring (r : String) : Members := [("$ref", .text r)]

section Checks

variable {d : Dialect} {n : Nat} {s sub m : Members} {v value : Value} {k : String}

theorem says_of_lone (k : String) {rule : Keyword} (hlone : s.get? "$ref" = none)
    (hget : s.get? k = some value) (hrule : d.keyword? k = some rule) : Says d s rule value := by
  refine ⟨k, ?_, hrule⟩
  have hall : applicable d s = s := by
    unfold applicable
    rw [hlone]
    split <;> rfl
  rw [hall]
  exact mem_of_get? hget

theorem keyword?_of_classic (hd : IsClassic d) {p : String × Keyword}
    (hp : p ∈ Dialect.laterKeywords) : d.keyword? p.1 = some p.2 := by
  revert p
  rcases hd with rfl | rfl | rfl <;> decide

theorem says_of_classic (hd : IsClassic d) (k : String) {rule : Keyword}
    (hrule : (k, rule) ∈ Dialect.laterKeywords) (hlone : s.get? "$ref" = none)
    (hget : s.get? k = some value) : Says d s rule value :=
  says_of_lone k hlone hget (keyword?_of_classic hd hrule)

theorem says_referring (hd : IsClassic d) (r : String) : Says d (referring r) .ref (.text r) := by
  refine ⟨"$ref", ?_, ?_⟩
  · rcases hd with rfl | rfl | rfl <;> exact List.mem_cons_self
  · rcases hd with rfl | rfl | rfl <;> rfl

theorem Checks.root (hd : IsClassic d) (h : Checks d n (referring "#") v) :
    ∃ j, n = j + 3 ∧ Checks d j d.rules v := by
  obtain ⟨sc, hsc, haccepts⟩ := h
  obtain ⟨j, rfl, hroot⟩ :=
    haccepts.reference (says_referring hd _) (lookup_root hd hsc) (base_rules hd).2
  exact ⟨j, rfl, _, List.mem_cons_of_mem _ List.mem_cons_self, hroot⟩

theorem isAnonymous_definition (hd : IsClassic d) {name : String} (hname : name ∈ definitionNames) :
    isAnonymous (d.definition name) = true := by
  revert hname name
  rcases hd with rfl | rfl | rfl <;> decide

theorem Checks.definition (hd : IsClassic d) (name : String) (hname : name ∈ definitionNames)
    (h : Checks d n (referring ("#/definitions/" ++ name)) v) :
    ∃ j, n = j + 3 ∧ Checks d j (d.definition name) v := by
  obtain ⟨sc, hsc, haccepts⟩ := h
  obtain ⟨j, rfl, hdefinition⟩ := haccepts.reference (says_referring hd _)
    (lookup_definition hd hsc hname) (ofSchema_of_isAnonymous (isAnonymous_definition hd hname))
  exact ⟨j, rfl, _, List.mem_cons_of_mem _ List.mem_cons_self, hdefinition⟩

theorem Checks.property (hd : IsClassic d) (h : Checks d n d.rules (.object m))
    (hprop : d.property? k = some (.object sub)) (hsub : isAnonymous sub = true)
    (hget : m.get? k = some value) : ∃ j, n = j + 3 ∧ Checks d j sub value := by
  obtain ⟨sc, hsc, haccepts⟩ := h
  obtain ⟨props, hprops, hmember⟩ := Option.bind_eq_some_iff.mp hprop
  cases props with
  | object props =>
    have hlone : d.rules.get? "$ref" = none := by rcases hd with rfl | rfl | rfl <;> rfl
    have hrule : d.keyword? "properties" = some .properties := by
      rcases hd with rfl | rfl | rfl <;> rfl
    obtain ⟨j, rfl, hmember⟩ := haccepts.property (says_of_lone "properties" hlone hprops hrule)
      (mem_of_get? hmember) hsub hget
    exact ⟨j, rfl, sc, hsc, hmember⟩
  | _ => exact nomatch hmember

theorem Checks.additional (h : Checks d n s (.object m))
    (hsaid : Says d s .additionalProperties (.object sub)) (hsub : isAnonymous sub = true)
    (hproperties : s.get? "properties" = none) (hpatterns : s.get? "patternProperties" = none)
    (hget : m.get? k = some v) : ∃ j, n = j + 3 ∧ Checks d j sub v := by
  obtain ⟨sc, hsc, haccepts⟩ := h
  obtain ⟨j, rfl, hmember⟩ := haccepts.additional hsaid hsub hproperties hpatterns hget
  exact ⟨j, rfl, sc, hsc, hmember⟩

theorem Checks.item (hd : IsClassic d) {xs : List Value} (h : Checks d n s (.array xs))
    (hsaid : Says d s .items (.object sub)) (hsub : isAnonymous sub = true) (hv : v ∈ xs) :
    ∃ j, n = j + 3 ∧ Checks d j sub v := by
  obtain ⟨sc, hsc, haccepts⟩ := h
  have hmodern : d ≠ .draft2020 := by rcases hd with rfl | rfl | rfl <;> decide
  obtain ⟨j, rfl, hitem⟩ := haccepts.item hmodern hsaid hsub hv
  exact ⟨j, rfl, sc, hsc, hitem⟩

theorem Checks.anyOf (h : Checks d n s v) {subs : List Members}
    (hsaid : Says d s .anyOf (.array (subs.map .object))) (hsubs : ∀ sub ∈ subs, isAnonymous sub) :
    ∃ sub ∈ subs, ∃ j, n = j + 3 ∧ Checks d j sub v := by
  obtain ⟨sc, hsc, haccepts⟩ := h
  obtain ⟨sub, hsub, j, rfl, hsubschema⟩ := haccepts.anyOf hsaid hsubs
  exact ⟨sub, hsub, j, rfl, sc, hsc, hsubschema⟩

/-- What is accepted is of a type that the schema names. -/
theorem Checks.type (hd : IsClassic d) (h : Checks d n s v) (hsaid : Says d s .type value) :
    ∃ name, .text name ∈ listOf value ∧ d.isType? name v = some true := by
  obtain ⟨sc, hsc, haccepts⟩ := h
  have hlater : d ≠ .draft3 := by rcases hd with rfl | rfl | rfl <;> decide
  obtain ⟨type, htype, hholds⟩ := haccepts.type hlater hsaid
  unfold isOfType at hholds
  split at hholds
  · rename_i name
    split at hholds
    · rename_i holds hname
      exact ⟨name, htype, hname.trans (congrArg some (Except.ok.inj hholds))⟩
    · cases hholds
  · cases hholds

theorem Checks.isType (hd : IsClassic d) (h : Checks d n s v) {name : String}
    (hsaid : Says d s .type (.text name)) : d.isType? name v = some true := by
  obtain ⟨name', hname, htype⟩ := h.type hd hsaid
  obtain rfl := Value.text.inj (List.mem_singleton.mp hname)
  exact htype

theorem exists_array (h : d.isType? "array" v = some true) : ∃ xs, v = .array xs := by
  cases v with
  | array xs => exact ⟨xs, rfl⟩
  | _ => exact nomatch h

theorem exists_object (h : d.isType? "object" v = some true) : ∃ m, v = .object m := by
  cases v with
  | object m => exact ⟨m, rfl⟩
  | _ => exact nomatch h

theorem exists_bool (h : d.isType? "boolean" v = some true) : ∃ b, v = .bool b := by
  cases v with
  | bool b => exact ⟨b, rfl⟩
  | _ => exact nomatch h

theorem definition_schemaArray (hd : IsClassic d) : d.definition "schemaArray" =
    [("type", .text "array"), ("minItems", .int 1), ("items", .object (referring "#"))] := by
  rcases hd with rfl | rfl | rfl <;> rfl

/-- A schema is accepted by that of its dialect, some levels further down. -/
def IsAccepted (d : Dialect) (n : Nat) (s : Value) : Prop := ∃ j ≤ n, Checks d j d.rules s

theorem IsAccepted.mono {n' : Nat} (h : IsAccepted d n v) (hle : n ≤ n') : IsAccepted d n' v := by
  obtain ⟨j, hj, hchecks⟩ := h
  exact ⟨j, Nat.le_trans hj hle, hchecks⟩

/-- What is accepted as an array of schemas is one. -/
theorem Checks.array (hd : IsClassic d) (h : Checks d n (referring "#/definitions/schemaArray") v) :
    ∃ xs, v = .array xs ∧ ∀ x ∈ xs, IsAccepted d (n - 3) x := by
  obtain ⟨i, hi, hdefinition⟩ := Checks.definition hd "schemaArray" (by decide) h
  rw [definition_schemaArray hd] at hdefinition
  obtain ⟨xs, rfl⟩ :=
    exists_array (hdefinition.isType hd (says_of_classic hd "type" (by decide) rfl rfl))
  refine ⟨xs, rfl, fun x hx => ?_⟩
  obtain ⟨j, hj, hitem⟩ :=
    hdefinition.item hd (says_of_classic hd "items" (by decide) rfl rfl) rfl hx
  obtain ⟨k, hk, hroot⟩ := hitem.root hd
  exact ⟨k, by omega, hroot⟩

theorem Checks.accepted (hd : IsClassic d) (h : Checks d n (referring "#") v) :
    IsAccepted d (n - 3) v := by
  obtain ⟨j, hj, hroot⟩ := h.root hd
  exact ⟨j, by omega, hroot⟩

theorem exists_rules_type (hd : IsClassic d) : ∃ types, d.rules.get? "type" = some types ∧
    ∀ name, .text name ∈ listOf types → name = "object" ∨ name = "boolean" := by
  rcases hd with rfl | rfl | rfl
  · exact ⟨.text "object", rfl, fun name h => .inl (Value.text.inj (List.mem_singleton.mp h))⟩
  · exact ⟨_, rfl, fun name h => by simpa [listOf, MetaSchema.texts] using h⟩
  · exact ⟨_, rfl, fun name h => by simpa [listOf, MetaSchema.texts] using h⟩

/-- A schema that is accepted is an object or, in some dialects, a boolean. -/
theorem Checks.object_or_bool (hd : IsClassic d) (h : Checks d n d.rules v) :
    (∃ m, v = .object m) ∨ ∃ b, v = .bool b := by
  obtain ⟨types, hget, htypes⟩ := exists_rules_type hd
  have hlone : d.rules.get? "$ref" = none := by rcases hd with rfl | rfl | rfl <;> rfl
  obtain ⟨name, hname, htype⟩ := h.type hd (says_of_classic hd "type" (by decide) hlone hget)
  rcases htypes name hname with rfl | rfl
  · exact .inl (exists_object htype)
  · exact .inr (exists_bool htype)

theorem IsAccepted.listOf_eq (hd : IsClassic d) (h : IsAccepted d n v) : listOf v = [v] := by
  obtain ⟨j, -, hchecks⟩ := h
  rcases hchecks.object_or_bool hd with ⟨m, rfl⟩ | ⟨b, rfl⟩ <;> rfl

/-! ## The schemas that a schema holds -/

/-- What is checked as one or more schemas. -/
theorem Checks.oneOrMore (hd : IsClassic d) (h : Checks d n d.rules (.object m))
    (hget : m.get? "items" = some value) : ∀ x ∈ listOf value, IsAccepted d (n - 6) x := by
  -- the property is the same in each of these dialects, up to a default beside it
  obtain ⟨rest, hprop, hrest, hlone⟩ : ∃ rest : Members, d.property? "items" =
      some (.object (("anyOf", .array
        ([referring "#", referring "#/definitions/schemaArray"].map .object)) :: rest)) ∧
      isAnonymous rest = true ∧ Members.get? rest "$ref" = none := by
    rcases hd with rfl | rfl | rfl <;> exact ⟨_, rfl, rfl, rfl⟩
  obtain ⟨i, hi, hproperty⟩ := h.property hd hprop hrest hget
  obtain ⟨sub, hsub, j, hj, hchecks⟩ :=
    hproperty.anyOf (says_of_classic hd "anyOf" (by decide) hlone rfl) (by decide)
  rcases List.mem_pair.mp hsub with rfl | rfl
  · have haccepted := hchecks.accepted hd
    rw [haccepted.listOf_eq hd]
    exact List.forall_mem_singleton.mpr (haccepted.mono (by omega))
  · obtain ⟨xs, rfl, hxs⟩ := hchecks.array hd
    exact fun x hx => (hxs x hx).mono (by omega)

/-- The schema of a dialect refers to itself for a member, or allows a boolean instead. -/
def RefersAt (d : Dialect) (k : String) : Prop :=
  d.property? k = some (.object (referring "#")) ∨ ∃ rest : Members, d.property? k =
    some (.object (("anyOf", .array
      ([[("type", .text "boolean")], referring "#"].map .object)) :: rest)) ∧
    isAnonymous rest = true ∧ Members.get? rest "$ref" = none

theorem refersAt (hd : IsClassic d) (hk : k ∈ ["not", "contains", "propertyNames",
      "additionalProperties", "additionalItems", "if", "then", "else"])
    (hsome : (d.property? k).isSome = true) : RefersAt d k := by
  simp only [List.mem_cons, List.not_mem_nil, or_false] at hk
  rcases hk with rfl | rfl | rfl | rfl | rfl | rfl | rfl | rfl <;>
    rcases hd with rfl | rfl | rfl <;>
      first | exact .inl rfl | exact .inr ⟨_, rfl, rfl, rfl⟩ | exact nomatch hsome

/-- What is checked as a schema, or as a boolean. -/
theorem Checks.schema (hd : IsClassic d) (h : Checks d n d.rules (.object m))
    (hrefers : RefersAt d k) (hget : m.get? k = some value) :
    (∃ b, value = .bool b) ∨ IsAccepted d (n - 6) value := by
  rcases hrefers with hprop | ⟨rest, hprop, hrest, hlone⟩
  · obtain ⟨i, hi, hproperty⟩ := h.property hd hprop rfl hget
    exact .inr ((hproperty.accepted hd).mono (by omega))
  · obtain ⟨i, hi, hproperty⟩ := h.property hd hprop hrest hget
    obtain ⟨sub, hsub, j, hj, hchecks⟩ :=
      hproperty.anyOf (says_of_classic hd "anyOf" (by decide) hlone rfl) (by decide)
    rcases List.mem_pair.mp hsub with rfl | rfl
    · exact .inl (exists_bool (hchecks.isType hd (says_of_classic hd "type" (by decide) rfl rfl)))
    · exact .inr ((hchecks.accepted hd).mono (by omega))

/-- What is checked as an array of schemas. -/
theorem Checks.schemas (hd : IsClassic d) (h : Checks d n d.rules (.object m))
    (hprop : d.property? k = some (.object (referring "#/definitions/schemaArray")))
    (hget : m.get? k = some value) : ∀ x ∈ listOf value, IsAccepted d (n - 6) x := by
  obtain ⟨i, hi, hproperty⟩ := h.property hd hprop rfl hget
  obtain ⟨xs, rfl, hxs⟩ := hproperty.array hd
  exact fun x hx => (hxs x hx).mono (by omega)

/-- What is checked as an object of schemas. -/
theorem Checks.members (hd : IsClassic d) (h : Checks d n d.rules (.object m))
    (hk : k ∈ ["properties", "patternProperties"]) (hget : m.get? k = some value) :
    ∃ names, value = .object names ∧
      ∀ p x, Members.get? names p = some x → IsAccepted d (n - 6) x := by
  -- the members have any names, so only the keyword for additional properties looks at them
  obtain ⟨rest, hprop, hrest, hlone, hproperties, hpatterns⟩ : ∃ rest : Members, d.property? k =
      some (.object (("type", .text "object") ::
        ("additionalProperties", .object (referring "#")) :: rest)) ∧
      isAnonymous rest = true ∧ Members.get? rest "$ref" = none ∧
      Members.get? rest "properties" = none ∧ Members.get? rest "patternProperties" = none := by
    rcases List.mem_pair.mp hk with rfl | rfl <;> rcases hd with rfl | rfl | rfl <;>
      exact ⟨_, rfl, rfl, rfl, rfl, rfl⟩
  obtain ⟨i, hi, hproperty⟩ := h.property hd hprop hrest hget
  obtain ⟨names, rfl⟩ :=
    exists_object (hproperty.isType hd (says_of_classic hd "type" (by decide) hlone rfl))
  refine ⟨names, rfl, fun p x hp => ?_⟩
  obtain ⟨j, hj, hmember⟩ := hproperty.additional
    (says_of_classic hd "additionalProperties" (by decide) hlone rfl) rfl hproperties hpatterns hp
  exact (hmember.accepted hd).mono (by omega)

/-- What is checked as what members ask for: names of others, or a schema. -/
theorem Checks.needs (hd : IsClassic d) (h : Checks d n d.rules (.object m))
    (hget : m.get? "dependencies" = some value) :
    ∃ names, value = .object names ∧
      ∀ p x, Members.get? names p = some x → x.isArray = true ∨ IsAccepted d (n - 6) x := by
  have hprop : d.property? "dependencies" = some (.object [("type", .text "object"),
      ("additionalProperties", .object [("anyOf", .array
        ([referring "#", referring "#/definitions/stringArray"].map .object))])]) := by
    rcases hd with rfl | rfl | rfl <;> rfl
  obtain ⟨i, hi, hproperty⟩ := h.property hd hprop rfl hget
  obtain ⟨names, rfl⟩ :=
    exists_object (hproperty.isType hd (says_of_classic hd "type" (by decide) rfl rfl))
  refine ⟨names, rfl, fun p x hp => ?_⟩
  obtain ⟨j, hj, hmember⟩ := hproperty.additional
    (says_of_classic hd "additionalProperties" (by decide) rfl rfl) rfl rfl rfl hp
  obtain ⟨sub, hsub, k, hk, hchecks⟩ :=
    hmember.anyOf (says_of_classic hd "anyOf" (by decide) rfl rfl) (by decide)
  -- a need is a schema again, or a list of names
  rcases List.mem_pair.mp hsub with rfl | rfl
  · exact .inr ((hchecks.accepted hd).mono (by omega))
  · obtain ⟨l, -, hdefinition⟩ := Checks.definition hd "stringArray" (by decide) hchecks
    have hlone : (d.definition "stringArray").get? "$ref" = none := by
      rcases hd with rfl | rfl | rfl <;> rfl
    have htype : (d.definition "stringArray").get? "type" = some (.text "array") := by
      rcases hd with rfl | rfl | rfl <;> rfl
    obtain ⟨xs, rfl⟩ :=
      exists_array (hdefinition.isType hd (says_of_classic hd "type" (by decide) hlone htype))
    exact .inl rfl

/-! ## What else a schema holds -/

theorem eq_of_same_text {t : String} (h : Json.same (.text t) v = true) : v = .text t := by
  cases v with
  | text t' =>
    have heq : (t == t') = true := h
    rw [eq_of_beq heq]
  | _ => exact nomatch h

/-- What is checked as the name of a type. -/
theorem Checks.typeName (hd : IsClassic d)
    (h : Checks d n (referring "#/definitions/simpleTypes") v) :
    ∃ name ∈ typeNames d, v = .text name := by
  obtain ⟨i, -, sc, -, haccepts⟩ := Checks.definition hd "simpleTypes" (by decide) h
  have hdefinition : d.definition "simpleTypes" = [("enum", MetaSchema.texts
      ["array", "boolean", "integer", "null", "number", "object", "string"])] := by
    rcases hd with rfl | rfl | rfl <;> rfl
  rw [hdefinition] at haccepts
  obtain ⟨allowed, hmem, hsame⟩ := haccepts.enum (says_of_classic hd "enum" (by decide) rfl rfl)
  obtain ⟨name, hname, rfl⟩ := List.mem_map.mp hmem
  refine ⟨name, List.mem_append_left _ ?_, eq_of_same_text hsame⟩
  clear hmem hsame
  revert name
  decide

/-- The types that are named are known. -/
theorem Checks.types (hd : IsClassic d) (h : Checks d n d.rules (.object m))
    (hget : m.get? "type" = some value) :
    ∀ type ∈ listOf value, ∃ name ∈ typeNames d, type = .text name := by
  have hprop : d.property? "type" = some (.object [("anyOf", .array
      ([referring "#/definitions/simpleTypes",
        [("type", .text "array"), ("items", .object (referring "#/definitions/simpleTypes")),
          ("minItems", .int 1), ("uniqueItems", .bool true)]].map .object))]) := by
    rcases hd with rfl | rfl | rfl <;> rfl
  obtain ⟨i, -, hproperty⟩ := h.property hd hprop rfl hget
  obtain ⟨sub, hsub, j, -, hchecks⟩ :=
    hproperty.anyOf (says_of_classic hd "anyOf" (by decide) rfl rfl) (by decide)
  -- a single name of a type, or a list of them
  rcases List.mem_pair.mp hsub with rfl | rfl
  · obtain ⟨name, hname, rfl⟩ := hchecks.typeName hd
    exact List.forall_mem_singleton.mpr ⟨name, hname, rfl⟩
  · obtain ⟨xs, rfl⟩ :=
      exists_array (hchecks.isType hd (says_of_classic hd "type" (by decide) rfl rfl))
    intro type htype
    obtain ⟨k, -, hitem⟩ :=
      hchecks.item hd (says_of_classic hd "items" (by decide) rfl rfl) rfl htype
    exact hitem.typeName hd

/-- A pattern can be read. -/
theorem Checks.pattern (hd : IsClassic d) (h : Checks d n d.rules (.object m)) {p : String}
    (hget : m.get? "pattern" = some (.text p)) : ∃ r, Pattern.Regex.parse p = .ok r := by
  have hprop : d.property? "pattern" =
      some (.object [("type", .text "string"), ("format", .text "regex")]) := by
    rcases hd with rfl | rfl | rfl <;> rfl
  obtain ⟨i, -, sc, -, haccepts⟩ := h.property hd hprop rfl hget
  exact haccepts.regex (says_of_classic hd "format" (by decide) rfl rfl) rfl

/-- The keys that are patterns can be read, in the dialect that looks at them. -/
theorem Checks.patternName (hd : IsClassic d) (hlooks : d.looksAtPatternNames = true)
    (h : Checks d n d.rules (.object m)) {names : Members}
    (hget : m.get? "patternProperties" = some (.object names)) {p : String} (hp : p ∈ names.keys) :
    ∃ r, Pattern.Regex.parse p = .ok r := by
  obtain rfl : d = .draft7 := by
    rcases hd with rfl | rfl | rfl
    · exact nomatch hlooks
    · exact nomatch hlooks
    · rfl
  have hprop : Dialect.draft7.property? "patternProperties" = some (.object
      [("type", .text "object"), ("additionalProperties", .object (referring "#")),
        ("propertyNames", .object [("format", .text "regex")]), ("default", .object [])]) := rfl
  obtain ⟨i, -, sc, -, haccepts⟩ := h.property hd hprop rfl hget
  obtain ⟨j, -, hkey⟩ := haccepts.key (says_of_lone "propertyNames" rfl rfl rfl) rfl hp
  exact hkey.regex (says_of_classic hd "format" (by decide) rfl rfl) rfl

/-- A divisor is not zero. -/
theorem Checks.divisor (hd : IsClassic d) (h : Checks d n d.rules (.object m)) :
    m.get? "multipleOf" ≠ some (.int 0) := by
  intro hget
  have hzero : isAtMost (.int 0) (.int 0) = true := rfl
  -- the first of these dialects marks the bound as exclusive, the later ones have a keyword for it
  rcases hd with rfl | hlater
  · have hprop : Dialect.draft4.property? "multipleOf" = some (.object
        [("type", .text "number"), ("minimum", .int 0), ("exclusiveMinimum", .bool true)]) := rfl
    obtain ⟨i, -, sc, -, haccepts⟩ := h.property (.inl rfl) hprop rfl hget
    have hbelow := haccepts.minimum rfl rfl (says_of_lone "minimum" rfl rfl rfl) rfl
    exact nomatch hzero.symm.trans hbelow
  · have hprop : d.property? "multipleOf" = some (.object
        [("type", .text "number"), ("exclusiveMinimum", .int 0)]) := by
      rcases hlater with rfl | rfl <;> rfl
    have hrule : d.keyword? "exclusiveMinimum" = some .exclusiveMinimum := by
      rcases hlater with rfl | rfl <;> rfl
    obtain ⟨i, -, sc, -, haccepts⟩ := h.property (.inr hlater) hprop rfl hget
    have hbelow := haccepts.exclusiveMinimum rfl (says_of_lone "exclusiveMinimum" rfl rfl hrule)
    exact nomatch hzero.symm.trans hbelow

end Checks

/-! ## One level of a schema -/

/-- How a rule is spelled in the dialects whose schema is one document. -/
def spelling (rule : Keyword) : String :=
  ((Dialect.draft7.keywords.find? (·.2 = rule)).map (·.1)).getD ""

section Level

variable {d : Dialect} {n : Nat} {m : Members} {v value s : Value} {rule : Keyword}

theorem mem_of_mem_applicable {e : String × Value} (h : e ∈ applicable d m) : e ∈ m := by
  unfold applicable at h
  repeat' split at h
  · exact h
  · exact h
  · rename_i reference _ hget
    exact List.mem_singleton.mp h ▸ mem_of_get? hget
  · exact h

theorem spelling_of_keyword? (hd : IsClassic d) {k : String} (h : d.keyword? k = some rule) :
    k = spelling rule := by
  have hspelled : ∀ e ∈ d.keywords, e.1 = spelling e.2 := by
    rcases hd with rfl | rfl | rfl <;> decide
  exact hspelled _ (mem_keywords h)

/-- What a schema says stands under the spelling of the rule. -/
theorem get?_of_says (hd : IsClassic d) (hm : KeysOnce (.object m)) (h : Says d m rule value) :
    m.get? (spelling rule) = some value ∧ d.keyword? (spelling rule) = some rule := by
  obtain ⟨k, hmem, hrule⟩ := h
  obtain rfl := spelling_of_keyword? hd hrule
  exact ⟨get?_of_mem hm.keys (mem_of_mem_applicable hmem), hrule⟩

/-- A value that has its keys once is a schema: a boolean or one that is accepted. -/
def IsChecked (d : Dialect) (n : Nat) (v : Value) : Prop :=
  KeysOnce v ∧ ((∃ b, v = .bool b) ∨ IsAccepted d n v)

theorem KeysOnce.member (hm : KeysOnce (.object m)) {k : String} (hget : m.get? k = some value) :
    KeysOnce value :=
  hm.inPart (s := .key k) hget

theorem KeysOnce.listed (hv : KeysOnce v) (hs : s ∈ listOf v) : KeysOnce s := by
  cases v with
  | array xs =>
    obtain ⟨i, hi⟩ := List.getElem?_of_mem hs
    exact hv.inPart (s := .index i) hi
  | _ => exact List.mem_singleton.mp hs ▸ hv

section Subschema

variable (hd : IsClassic d) (hm : KeysOnce (.object m)) (h : Checks d n d.rules (.object m))
include hd hm h

theorem isChecked_of_refersAt {k : String} (hrefers : RefersAt d k) (hget : m.get? k = some s) :
    IsChecked d (n - 6) s :=
  ⟨hm.member hget, h.schema hd hrefers hget⟩

theorem isChecked_of_array {k : String}
    (hprop : d.property? k = some (.object (referring "#/definitions/schemaArray")))
    (hget : m.get? k = some value) (hs : s ∈ listOf value) : IsChecked d (n - 6) s :=
  ⟨(hm.member hget).listed hs, .inr (h.schemas hd hprop hget s hs)⟩

theorem isChecked_of_items (hget : m.get? "items" = some value) (hs : s ∈ listOf value) :
    IsChecked d (n - 6) s :=
  ⟨(hm.member hget).listed hs, .inr (h.oneOrMore hd hget s hs)⟩

theorem isChecked_of_members {k : String} (hk : k ∈ ["properties", "patternProperties"])
    (hget : m.get? k = some value) (hs : s ∈ (value.members?.getD []).map (·.2)) :
    IsChecked d (n - 6) s := by
  obtain ⟨names, rfl, haccepted⟩ := h.members hd hk hget
  obtain ⟨⟨p, s⟩, hmem, rfl⟩ := List.mem_map.mp hs
  have hp := get?_of_mem (hm.member hget).keys hmem
  exact ⟨(hm.member hget).member hp, .inr (haccepted p s hp)⟩

theorem isChecked_of_needs (hget : m.get? "dependencies" = some value)
    (hs : s ∈ subschemasAt d m .dependencies value) : IsChecked d (n - 6) s := by
  obtain ⟨names, rfl, haccepted⟩ := h.needs hd hget
  obtain ⟨hmap, hkind⟩ := List.mem_filter.mp hs
  obtain ⟨⟨p, s⟩, hmem, rfl⟩ := List.mem_map.mp hmap
  have hp := get?_of_mem (hm.member hget).keys hmem
  refine ⟨(hm.member hget).member hp, .inr ((haccepted p s hp).resolve_left fun harray => ?_)⟩
  simp [harray] at hkind

/-- The schemas that the keywords of an accepted schema hold are accepted. -/
theorem Checks.subschema (hsaid : Says d m rule value) (hs : s ∈ subschemasAt d m rule value) :
    IsChecked d (n - 6) s := by
  obtain ⟨hget, hrule⟩ := get?_of_says hd hm hsaid
  -- most keywords hold one schema, which their property refers to the root
  have hrefers {k : String} (hk : k ∈ ["not", "contains", "propertyNames",
        "additionalProperties", "additionalItems", "if", "then", "else"])
      (hsome : (d.property? k).isSome = true) (hget : m.get? k = some s) : IsChecked d (n - 6) s :=
    isChecked_of_refersAt hd hm h (refersAt hd hk hsome) hget
  cases rule with
  | not | contains | propertyNames | additionalProperties | additionalItems =>
    obtain rfl := List.mem_singleton.mp hs
    refine hrefers ?_ ?_ hget
    · decide
    · rcases hd with rfl | rfl | rfl <;> first | rfl | exact nomatch hrule
  | condition =>
    obtain rfl : d = .draft7 := by
      rcases hd with rfl | rfl | rfl <;> first | rfl | exact nomatch hrule
    rcases List.mem_cons.mp hs with rfl | hs
    · exact hrefers (by decide) rfl hget
    · obtain ⟨key, hkey, hbranch⟩ := List.mem_filterMap.mp hs
      rcases List.mem_pair.mp hkey with rfl | rfl
      · exact hrefers (by decide) rfl hbranch
      · exact hrefers (by decide) rfl hbranch
  | allOf | anyOf | oneOf =>
    refine isChecked_of_array hd hm h ?_ hget hs
    rcases hd with rfl | rfl | rfl <;> rfl
  | properties | patternProperties =>
    exact isChecked_of_members hd hm h (by decide) hget hs
  | dependencies => exact isChecked_of_needs hd hm h hget hs
  | items =>
    refine isChecked_of_items hd hm h hget ?_
    rcases hd with rfl | rfl | rfl <;> exact hs
  | type => rcases hd with rfl | rfl | rfl <;> exact nomatch hs
  | prefixItems | dependentSchemas | unevaluatedItems | unevaluatedProperties | base | disallow =>
    rcases hd with rfl | rfl | rfl <;> exact nomatch hrule
  | _ => exact nomatch hs

/-- A schema that is accepted has no fault that the check looks at. -/
theorem not_checkedFault {stop : Stop} : ¬ CheckedFault d m stop := by
  rintro (⟨hsaid, htype, hunknown⟩ | ⟨hsaid, hparse⟩ | ⟨hlooks, hsaid, hp, hparse⟩ | hsaid)
  · obtain ⟨hget, -⟩ := get?_of_says hd hm hsaid
    obtain ⟨name, hname, rfl⟩ := h.types hd hget _ htype
    exact hunknown hname
  · obtain ⟨hget, -⟩ := get?_of_says hd hm hsaid
    obtain ⟨r, hr⟩ := h.pattern hd hget
    exact nomatch hr.symm.trans hparse
  · obtain ⟨hget, -⟩ := get?_of_says hd hm hsaid
    obtain ⟨r, hr⟩ := h.patternName hd hlooks hget hp
    exact nomatch hr.symm.trans hparse
  · obtain ⟨hget, -⟩ := get?_of_says hd hm hsaid
    exact h.divisor hd hget

end Subschema

theorem Checks.pos {rules : Members} (h : Checks d n rules v) : 0 < n := by
  obtain ⟨sc, -, haccepts⟩ := h
  cases n with
  | zero => exact nomatch (eq_none_iff.mp haccepts).2
  | succ n => exact Nat.succ_pos n

/-- What lies inside an accepted schema is accepted, six levels further down for each schema. -/
theorem Within.isChecked (hd : IsClassic d) {k : Nat} {t : Value} (h : Within d k v t)
    (hv : IsChecked d n v) : IsChecked d (n - 6 * k) t := by
  induction h generalizing n with
  | refl v => exact hv
  | step hsaid hs rest ih =>
    obtain ⟨hm, ⟨b, hb⟩ | ⟨j, hj, hchecks⟩⟩ := hv
    · exact nomatch hb
    · obtain ⟨ht, hbool | haccepted⟩ := ih (hchecks.subschema hd hm hsaid hs)
      · exact ⟨ht, .inl hbool⟩
      · exact ⟨ht, .inr (haccepted.mono (by omega))⟩

/-- Accepted schemas do not lie deeper one inside the other than the levels allow. -/
theorem Within.depth_lt (hd : IsClassic d) {k : Nat} {t : Value} (h : Within d k v t)
    (hv : IsChecked d n v) : 6 * k < n + 6 := by
  induction h generalizing n with
  | refl v => omega
  | step hsaid hs rest ih =>
    obtain ⟨hm, ⟨b, hb⟩ | ⟨j, hj, hchecks⟩⟩ := hv
    · exact nomatch hb
    · have hrest := ih (hchecks.subschema hd hm hsaid hs)
      have hpos := hchecks.pos
      omega

end Level

/-- A schema document passes the check if the URI of its dialect can be divided and the schema of
the dialect finds nothing. -/
theorem check_eq_ok_none_iff {document : Members} :
    check document = .ok none ↔ dialectFault? document = none ∧ metaFindings document = .none := by
  unfold check
  split
  · rename_i hfault
    simp [hfault]
  · rename_i hfault
    dsimp only
    rw [eq_none_iff]
    split <;> simp_all

/-- A schema document that passes the check is accepted. -/
theorem isChecked_of_check {document : Members} (hd : IsClassic (dialectOf document))
    (hm : KeysOnce (.object document)) (h : check document = .ok none) :
    IsChecked (dialectOf document) depthLimit (.object document) := by
  refine ⟨hm, .inr ⟨depthLimit, Nat.le_refl _, _, List.mem_cons_self, ?_⟩⟩
  rw [Accepts, ← metaSchema_eq hd]
  exact (check_eq_ok_none_iff.mp h).2

end ContractDrift.Schema
