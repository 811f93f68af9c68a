/-
What can make an evaluation stop.

An evaluation goes from a schema to the schemas that it applies: those that its keywords hold
(`subschemasAt`) and those that its references lead to.  A `Site` is a schema with the scope in
which its references are read, `Reaches` follows such steps, and `CheckedFault` and
`UncheckedFault` list what a schema can say that makes an evaluation stop: the former is what a
check of schemas looks at, the latter what no check does.

Design notes: a site has no dialect, since the dialect is taken to be one and the same everywhere;
a schema that names another one is itself among the faults.  Whether a schema is entered with its
identifier or without differs from keyword to keyword, and both steps are there for all.
-/
import ContractDrift.Schema.Registry

namespace ContractDrift.Schema

open ContractDrift.Json (Value Members)

/-! ## Sites -/

/-- A schema says something by a keyword that counts. -/
def Says (d : Dialect) (m : Members) (rule : Keyword) (value : Value) : Prop :=
  ∃ k, (k, value) ∈ applicable d m ∧ d.keyword? k = some rule

/-- The schemas that a keyword holds. -/
def subschemasAt (d : Dialect) (m : Members) (rule : Keyword) (value : Value) : List Value :=
  match rule with
  | .allOf | .anyOf | .oneOf | .prefixItems => listOf value
  | .not | .propertyNames | .additionalProperties | .contains | .additionalItems
  | .unevaluatedItems | .unevaluatedProperties => [value]
  | .condition => value :: ["then", "else"].filterMap (m.get? ·)
  | .properties | .patternProperties | .dependentSchemas => (value.members?.getD []).map (·.2)
  | .dependencies =>
    ((value.members?.getD []).map (·.2)).filter fun need => !need.isArray && !need.isText
  | .items => if d = .draft2020 then [value] else listOf value
  | .base => listOf value
  | .disallow => (listOf value).map fun type => .object [("type", .array [type])]
  | .type => if d = .draft3 then (listOf value).filter Value.isObject else []
  | _ => []

/-- A schema with the scope in which its references are read. -/
structure Site where
  scope : Scope
  schema : Value

/-- A schema applies another one to what it is applied to, or to a part of this. -/
inductive Applies (x : Index) (d : Dialect) : Site → Site → Prop
  | kept {sc : Scope} {m : Members} {rule : Keyword} {value s : Value} (h : Says d m rule value)
      (hs : s ∈ subschemasAt d m rule value) : Applies x d ⟨sc, .object m⟩ ⟨sc, s⟩
  | entered {sc : Scope} {m : Members} {rule : Keyword} {value s : Value} (h : Says d m rule value)
      (hs : s ∈ subschemasAt d m rule value) : Applies x d ⟨sc, .object m⟩ ⟨sc.enter ⟨s, d⟩, s⟩
  | referred {sc sc' : Scope} {m : Members} {reference : String} {s : Value}
      (h : Says d m .ref (.text reference) ∨ Says d m .dynamicRef (.text reference))
      (hs : x.lookup sc reference = .ok (s, sc')) : Applies x d ⟨sc, .object m⟩ ⟨sc', s⟩
  | recursed {sc sc' : Scope} {m : Members} {value s : Value}
      (h : Says d m .recursiveRef value) (hs : x.lookupRecursive sc = .ok (s, sc')) :
      Applies x d ⟨sc, .object m⟩ ⟨sc', s⟩

/-- Schemas are applied one inside the other, a number of times. -/
inductive Reaches (x : Index) (d : Dialect) : Nat → Site → Site → Prop
  | refl (a : Site) : Reaches x d 0 a a
  | step {n : Nat} {a b c : Site} (h : Applies x d a b) (rest : Reaches x d n b c) :
      Reaches x d (n + 1) a c

/-- One schema lies inside another, a number of schemas deep, without a reference on the way. -/
inductive Within (d : Dialect) : Nat → Value → Value → Prop
  | refl (v : Value) : Within d 0 v v
  | step {n : Nat} {m : Members} {rule : Keyword} {value s t : Value} (h : Says d m rule value)
      (hs : s ∈ subschemasAt d m rule value) (rest : Within d n s t) :
      Within d (n + 1) (.object m) t

/-! ## Faults -/

/-- The names of types that a dialect knows. -/
def typeNames (d : Dialect) : List String :=
  ["null", "boolean", "integer", "number", "string", "array", "object"] ++
    if d = .draft3 then ["any"] else []

/-- A dialect does not know a type; in the first one a schema can stand for a type. -/
def IsUnknownType (d : Dialect) : Value → Prop
  | .text name => name ∉ typeNames d
  | .object _ => d ≠ .draft3
  | _ => True

/-- Whether the schema of a dialect looks at the keys that are patterns. -/
def Dialect.looksAtPatternNames : Dialect → Bool
  | .draft3 | .draft4 | .draft6 => false
  | _ => true

/-- What makes an evaluation stop although a check of schemas looks at it. -/
inductive CheckedFault (d : Dialect) (m : Members) : Stop → Prop
  | type {value type v : Value} (h : Says d m .type value) (htype : type ∈ listOf value)
      (hunknown : IsUnknownType d type) : CheckedFault d m (.unknownType type (.object m) v)
  | pattern {p : String} {e : Pattern.ReadError} (h : Says d m .pattern (.text p))
      (hparse : Pattern.Regex.parse p = .error e) : CheckedFault d m (.pattern e)
  | patternName {names : Members} {p : String} {e : Pattern.ReadError}
      (hd : d.looksAtPatternNames = true) (h : Says d m .patternProperties (.object names))
      (hp : p ∈ names.keys) (hparse : Pattern.Regex.parse p = .error e) :
      CheckedFault d m (.pattern e)
  | zeroDivisor (h : Says d m .multipleOf (.int 0)) : CheckedFault d m .zeroDivisor

/-- A divisor that is a float, or too large to be one. -/
def IsRiskyDivisor : Value → Prop
  | .real _ => True
  | .int n => Decimal.ofInt? n = none
  | _ => False

/-- What makes an evaluation stop and no check of schemas looks at: a schema that names another
dialect, a reference that leads nowhere, a key that is no pattern where none of them is looked at,
patterns that cannot be put together to one, a divisor that is a float, further items after
something that has no length, and the format of patterns for a document that is one of a strange
kind. -/
inductive UncheckedFault (x : Index) (d : Dialect) (sc : Scope) (m : Members) : Stop → Prop
  | dialect {s : Stop} (h : d.ofSchema (.object m) ≠ d) : UncheckedFault x d sc m s
  | reference {r : String} {e : LookupFault}
      (h : Says d m .ref (.text r) ∨ Says d m .dynamicRef (.text r))
      (hlookup : x.lookup sc r = .error e) : UncheckedFault x d sc m (.reference e)
  | bareReference {r : String} {e : LookupFault}
      (h : Says d m .ref (.text r) ∨ Says d m .dynamicRef (.text r))
      (hlookup : x.lookup sc r = .error e) : UncheckedFault x d sc m (.bareReference e)
  | recursion {value : Value} {e : LookupFault} (h : Says d m .recursiveRef value)
      (hlookup : x.lookupRecursive sc = .error e) : UncheckedFault x d sc m (.bareReference e)
  | patternName {names : Members} {p : String} {e : Pattern.ReadError}
      (hd : d.looksAtPatternNames = false) (h : Says d m .patternProperties (.object names))
      (hp : p ∈ names.keys) (hparse : Pattern.Regex.parse p = .error e) :
      UncheckedFault x d sc m (.pattern e)
  | joinedPatterns {value : Value} {names : Members} {e : Pattern.ReadError}
      (h : Says d m .additionalProperties value)
      (hnames : m.get? "patternProperties" = some (.object names))
      (hparse : Pattern.Regex.parse ("|".intercalate names.keys) = .error e) :
      UncheckedFault x d sc m (.pattern e)
  | divisor {value : Value} {s : Stop} (h : Says d m .multipleOf value)
      (hrisky : IsRiskyDivisor value) : UncheckedFault x d sc m s
  | items {s : Stop} (h : (∃ value, Says d m .additionalItems value) ∨ d = .draft2019)
      (hitems : itemsLength m = .error s) : UncheckedFault x d sc m s
  | patternFormat {p : String} {e : Pattern.ReadError} (h : Says d m .format (.text "regex"))
      (hparse : Pattern.Regex.parse p = .error e) (hstrange : e.fault.isWriting = false) :
      UncheckedFault x d sc m (.pattern e)

/-- An evaluation has a cause to stop: schemas are applied too deep one inside the other for a
number of levels, or one of them is at fault. -/
def Cause (x : Index) (d : Dialect) (levels : Nat) (a : Site) (s : Stop) : Prop :=
  ∃ n b, Reaches x d n a b ∧ (s = .tooDeep ∧ levels ≤ 5 * n + 4 ∨
    ∃ m, b.schema = .object m ∧ (CheckedFault d m s ∨ UncheckedFault x d b.scope m s))

section Cause

variable {x : Index} {d : Dialect} {levels levels' : Nat} {a b : Site} {s : Stop}

theorem Cause.mono (h : Cause x d levels a s) (hle : levels' ≤ levels) : Cause x d levels' a s := by
  obtain ⟨n, c, hreach, ⟨hs, hn⟩ | hfault⟩ := h
  · exact ⟨n, c, hreach, .inl ⟨hs, Nat.le_trans hle hn⟩⟩
  · exact ⟨n, c, hreach, .inr hfault⟩

theorem Cause.of_applies (happlies : Applies x d a b) (h : Cause x d levels b s) :
    Cause x d (levels + 5) a s := by
  obtain ⟨n, c, hreach, ⟨hs, hn⟩ | hfault⟩ := h
  · exact ⟨n + 1, c, .step happlies hreach, .inl ⟨hs, by omega⟩⟩
  · exact ⟨n + 1, c, .step happlies hreach, .inr hfault⟩

theorem Cause.tooDeep (x : Index) (d : Dialect) (a : Site) (hle : levels ≤ 4) :
    Cause x d levels a .tooDeep :=
  ⟨0, a, .refl a, .inl ⟨rfl, hle⟩⟩

variable {sc : Scope} {m : Members}

theorem CheckedFault.cause (h : CheckedFault d m s) (sc : Scope) :
    Cause x d levels ⟨sc, .object m⟩ s :=
  ⟨0, _, .refl _, .inr ⟨m, rfl, .inl h⟩⟩

theorem UncheckedFault.cause (h : UncheckedFault x d sc m s) :
    Cause x d levels ⟨sc, .object m⟩ s :=
  ⟨0, _, .refl _, .inr ⟨m, rfl, .inr h⟩⟩

end Cause

end ContractDrift.Schema
