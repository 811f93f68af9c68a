/-
Evaluating a document against a schema.

`descend` applies a subschema, `isValid` tests a document against one, and `keyword`
states what each rule finds.  `evaluatedItems` and `evaluatedKeys` list the parts of
a document that some other keyword of a schema, or of the schemas it applies, takes
care of.

Design notes: the schema that is applied can name a dialect of its own.  Its rules are
then those of that dialect, but whether a reference stands alone and how the schema is
identified are up to the dialect around it.  The recursion goes down on a bound on its
depth: references can lead round in circles.
-/
import ContractDrift.Schema.Assertion

namespace ContractDrift.Schema

open ContractDrift.Json (Value Members display)
open Findings (expect one stopped after each under)

/-- What an evaluation takes for granted. -/
structure Setting where
  index : Index
  /-- The formats that are checked. -/
  formats : List Format

/-- Where a schema is evaluated. -/
structure Frame where
  dialect : Dialect
  scope : Scope
  deriving Inhabited

/-- The members of a schema that count. -/
def applicable (d : Dialect) (schema : Members) : Members :=
  if d.refStandsAlone then
    match schema.get? "$ref" with
    | none => schema
    | some .null => schema
    | some reference => [("$ref", reference)]
  else schema

/-- Counts the items that pass a test, no further than to the first one too many; the flag
says that there is one. -/
def countPassing (isOver : Nat → Bool) (test : Value → Except Stop Bool) :
    (count : Nat) → List Value → Except Stop (Nat × Bool)
  | count, [] => return (count, false)
  | count, x :: r => do
    if ← test x then
      if isOver (count + 1) then return (count + 1, true)
      else countPassing isOver test (count + 1) r
    else countPassing isOver test count r

/-- The first schema that passes a test and the schemas after it. -/
def firstPassing (test : Value → Except Stop Bool) :
    List Value → Except Stop (Option (Value × List Value))
  | [] => return none
  | s :: r => do if ← test s then return some (s, r) else firstPassing test r

/-- The indexes of the items that pass a test. -/
def indexesPassing (test : Value → Except Stop Bool) : (from_ : Nat) → List Value →
    Except Stop (List Nat)
  | _, [] => return []
  | i, x :: r => do
    let here ← test x
    let rest ← indexesPassing test (i + 1) r
    return if here then i :: rest else rest

/-- What is gathered from each member of a list. -/
def gather {α β : Type} (f : α → Except Stop (List β)) : List α → Except Stop (List β)
  | [] => return []
  | x :: r => do
    let here ← f x
    return here ++ (← gather f r)

/-- The keys of an object that neither `properties` nor `patternProperties` is about. -/
def additionalKeys (schema m : Members) : Except Stop (List String) := do
  let declared := ((schema.get? "properties").bind Value.members?).getD []
  let patterns := ((schema.get? "patternProperties").bind Value.members?).getD []
  let joined := "|".intercalate patterns.keys
  let others := m.keys.filter fun k => !Members.has declared k
  if joined = "" then return others
  else others.filterM fun k => return !(← patternFound joined k)

/-- The findings for members that no rule allows. -/
def refuseAdditional (k : String) (schema : Members) (extra : List String) : Findings :=
  let shown := displayRow ((Text.sort extra).map .text)
  match schema.get? "patternProperties" with
  | some patterns =>
    let names := displayRow ((Text.sort ((patterns.members?.getD []).keys)).map .text)
    one k (shown ++ (if extra.length = 1 then " does" else " do") ++
      " not match any of the regexes: " ++ names)
  | none =>
    one k ("Additional properties are not allowed (" ++
      leftOver ((Text.sort extra).map .text) ++ ")")

/-- The length of what `items` has to say about single items. -/
def itemsLength (schema : Members) : Except Stop Nat :=
  match schema.get? "items" with
  | none => .ok 0
  | some (.array xs) => .ok xs.length
  | some (.object m) => .ok m.length
  | some (.text s) => .ok s.length
  | some v => .error (.noLength v.kindName)

/-- The number of items that have schemas of their own. -/
def leadingLength (schema : Members) : Nat :=
  (((schema.get? "prefixItems").bind Value.items?).getD []).length

/-- The number a schema gives, or a default. -/
def numberOr (schema : Members) (key : String) (default : Nat) : Value :=
  (schema.get? key).getD (.int default)

/-- The name of a type in a message: that of a schema is its own name. -/
def typeShown (type : Value) : String :=
  match type.get? "name" with
  | some name => display name
  | none => display type

/-- The schema that a reference names, where it is asked what this schema evaluates. -/
def lookupBare (env : Setting) (scope : Scope) (reference : String) :
    Except Stop (Value × Scope) :=
  match env.index.lookup scope reference with
  | .ok r => .ok r
  | .error e => .error (.bareReference e)

mutual

/-- What a document violates of a schema that is applied to it.  `scope` is the scope in the
schema, if a reference has led to it, and `step` leads to the document from the one around
it; a violation of the schema that allows nothing is put down to the latter. -/
def descend : (depth : Nat) → Setting → Frame → (scope : Option Scope) →
    (step : Option Step) → Value → Value → Findings
  | 0, _, _, _, _, _, _ => stopped .tooDeep
  | n + 1, env, f, scope, step, schema, v =>
    match schema with
    | .bool true => .none
    | .bool false => ⟨[⟨[], "False schema does not allow " ++ display v, none⟩], none⟩
    | _ =>
      let inner := scope.getD (f.scope.enter ⟨schema, f.dialect⟩)
      let found := run n env ⟨f.dialect.ofSchema schema, inner⟩ f.dialect schema v
      match step with
      | some s => under s found
      | none => found

/-- Whether a document satisfies a schema, whose identifier counts for nothing. -/
def isValid : (depth : Nat) → Setting → Frame → Value → Value → Except Stop Bool
  | 0, _, _, _, _ => .error .tooDeep
  | n + 1, env, f, schema, v =>
    match schema with
    | .bool b => .ok b
    | _ =>
      let d := f.dialect.ofSchema schema
      (run n env ⟨d, f.scope⟩ d schema v).isClean

/-- What a document violates of the keywords of a schema, in their order; `around` is the
dialect around the schema. -/
def run : (depth : Nat) → Setting → Frame → (around : Dialect) → Value → Value → Findings
  | 0, _, _, _, _, _ => stopped .tooDeep
  | n + 1, env, f, around, schema, v =>
    match schema with
    | .object m =>
      each (applicable around m) fun (k, value) =>
        match f.dialect.keyword? k with
        | some rule => keyword n env f rule k value m v
        | none => .none
    | _ => .none

/-- What a document violates of one keyword. -/
def keyword : (depth : Nat) → Setting → Frame → Keyword → String → Value → Members → Value →
    Findings
  | 0, _, _, _, _, _, _, _ => stopped .tooDeep
  | n + 1, env, f, rule, k, value, schema, v =>
    let apply (subschema part : Value) : Findings := descend n env f none none subschema part
    let applyTo (step : Step) (subschema part : Value) : Findings :=
      descend n env f none (some step) subschema part
    let test (subschema part : Value) : Except Stop Bool := isValid n env f subschema part
    let passes (part subschema : Value) : Except Stop Bool := do
      return (← (apply subschema part).all).isEmpty
    let applyAt (subschema : Value) (parts : List (Value × Nat)) : Findings :=
      each parts fun (x, i) => applyTo (.index i) subschema x
    let applyEach (subschemas xs : List Value) : Findings :=
      each ((xs.zip subschemas).zipIdx) fun ((x, s), i) => applyTo (.index i) s x
    match rule, v with
    | .ref, v =>
      match value with
      | .text reference =>
        match env.index.lookup f.scope reference with
        | .ok (target, scope) => descend n env f (some scope) none target v
        | .error e => stopped (.reference e)
      | _ => .none
    | .dynamicRef, v =>
      match value with
      | .text reference =>
        match env.index.lookup f.scope reference with
        | .ok (target, scope) => descend n env f (some scope) none target v
        | .error e => stopped (.reference e)
      | _ => .none
    | .recursiveRef, v =>
      match env.index.lookupRecursive f.scope with
      | .ok (target, scope) => descend n env f (some scope) none target v
      | .error e => stopped (.bareReference e)
    | .allOf, v => each (listOf value) fun s => apply s v
    | .anyOf, v =>
      after ((listOf value).anyM (passes v)) fun found =>
        expect found k (display v ++ " is not valid under any of the given schemas")
    | .oneOf, v =>
      after (firstPassing (passes v) (listOf value)) fun found =>
        match found with
        | none => one k (display v ++ " is not valid under any of the given schemas")
        | some (first, rest) =>
          after (rest.filterM fun s => test s v) fun more =>
            expect more.isEmpty k
              (display v ++ " is valid under each of " ++ displayRow (more ++ [first]))
    | .not, v =>
      after (test value v) fun ok =>
        expect (!ok) k (display v ++ " should not be valid under " ++ display value)
    | .condition, v =>
      after (test value v) fun ok =>
        match schema.get? (if ok then "then" else "else") with
        | some s => apply s v
        | none => .none
    | .base, v =>
      match value with
      | .object _ => apply value v
      | _ => each (listOf value) fun s => apply s v
    | .disallow, v =>
      each (listOf value) fun type =>
        after (test (.object [("type", .array [type])]) v) fun ok =>
          expect (!ok) k (display type ++ " is disallowed for " ++ display v)
    | .type, v =>
      if f.dialect = .draft3 then
        let fits (type : Value) : Except Stop Bool :=
          match type with
          | .text "any" => .ok true
          | .object _ => passes v type
          | _ => isOfType f.dialect (.object schema) v type
        after ((listOf value).anyM fits) fun ok =>
          expect ok k
            (display v ++ " is not of type " ++ ", ".intercalate ((listOf value).map typeShown))
      else assertion env.formats f.dialect schema rule k value v
    | .properties, .object m =>
      each (value.members?.getD []) fun (property, s) =>
        match Members.get? m property with
        | some part => applyTo (.key property) s part
        | none =>
          if f.dialect = .draft3 && ((s.get? "required").map (·.isTruthy)).getD false then
            under (.key property)
              (one "required" (Text.quoted property ++ " is a required property"))
          else .none
    | .patternProperties, .object m =>
      each (value.members?.getD []) fun (pattern, s) =>
        each m fun (key, part) =>
          after (patternFound pattern key) fun found =>
            if found then applyTo (.key key) s part else .none
    | .propertyNames, .object m => each m fun (key, _) => apply value (.text key)
    | .additionalProperties, .object m =>
      after (additionalKeys schema m) fun extra =>
        match value with
        | .object _ =>
          each extra fun key => applyTo (.key key) value ((Members.get? m key).getD .null)
        | _ => if value.isTruthy || extra.isEmpty then .none else refuseAdditional k schema extra
    | .dependencies, .object m =>
      each (value.members?.getD []) fun (property, need) =>
        if !Members.has m property then .none
        else match need with
          | .array names => assertNeeded k property names m
          | .text name =>
            if f.dialect = .draft3 then assertNeeded k property [.text name] m else .none
          | _ => apply need v
    | .dependentSchemas, .object m =>
      each (value.members?.getD []) fun (property, s) =>
        if Members.has m property then apply s v else .none
    | .unevaluatedProperties, .object m =>
      after (evaluatedKeys n env f (.object schema) m) fun done =>
        let left := m.filter fun (key, _) => !done.contains key
        after (gather (fun (key, part) => do
            return (← (apply value part).all).map fun _ => key) left) fun bad =>
          if bad.isEmpty then .none
          else match value with
            | .bool false =>
              one k ("Unevaluated properties are not allowed (" ++
                leftOver ((Text.sort bad).map .text) ++ ")")
            | _ =>
              one k ("Unevaluated properties are not valid under the given schema (" ++
                leftOverAs " unevaluated and invalid" (bad.map .text) ++ ")")
    | .prefixItems, .array xs => applyEach (listOf value) xs
    | .items, .array xs =>
      if f.dialect = .draft2020 then
        let first := leadingLength schema
        match value with
        | .bool false =>
          let extra := xs.drop first
          let rest := match extra with
            | [x] => x
            | _ => .array extra
          expect extra.isEmpty k
            (s!"Expected at most {first} " ++ (if first = 1 then "item" else "items") ++
              s!" but found {extra.length} extra: " ++ display rest)
        | _ => applyAt value (xs.zipIdx.drop first)
      else match value with
        | .array subschemas => applyEach subschemas xs
        | _ => applyAt value xs.zipIdx
    | .additionalItems, .array xs =>
      if ((schema.get? "items").map Value.isObject).getD true then .none
      else after (itemsLength schema) fun count =>
        match value with
        | .object _ => applyAt value (xs.zipIdx.drop count)
        | _ =>
          expect (value.isTruthy || xs.length ≤ count) k
            ("Additional items are not allowed (" ++ leftOver (xs.drop count) ++ ")")
    | .contains, .array xs =>
      if f.dialect = .draft6 || f.dialect = .draft7 then
        after (xs.anyM (test value)) fun found =>
          expect found k ("None of " ++ display v ++ " are valid under the given schema")
      else
        let least := numberOr schema "minContains" 1
        let greatest := numberOr schema "maxContains" xs.length
        let isOver (count : Nat) : Bool := isBelow greatest (.int count)
        after (countPassing isOver (test value) 0 xs) fun (count, exceeded) =>
          if exceeded then
            one "maxContains" ("Too many items match the given schema (expected at most " ++
              Json.plain greatest ++ ")")
          else if !isBelow (.int count) least then .none
          else if count = 0 then
            one k (display v ++ " does not contain items matching the given schema")
          else
            one "minContains" ("Too few items match the given schema (expected at least " ++
              Json.plain least ++ s!" but only {count} matched)")
    | .unevaluatedItems, .array xs =>
      after (evaluatedItems n env f (.object schema) xs) fun done =>
        let left := (xs.zipIdx.filter fun (_, i) => !done.contains i).map (·.1)
        expect left.isEmpty k ("Unevaluated items are not allowed (" ++ leftOver left ++ ")")
    | rule, v => assertion env.formats f.dialect schema rule k value v

/-- The schemas that a schema applies to a document as a whole and that it satisfies, each
with where it is evaluated. -/
def applied : (depth : Nat) → Setting → Frame → Members → Value →
    Except Stop (List (Frame × Value))
  | 0, _, _, _, _ => .error .tooDeep
  | n + 1, env, f, schema, v => do
    let led (target : Value × Scope) : List (Frame × Value) :=
      [(⟨f.dialect.ofSchema target.1, target.2⟩, target.1)]
    let byReference ← gather (fun key => do
      match schema.get? key with
      | some (.text reference) => return led (← lookupBare env f.scope reference)
      | _ => return []) (if f.dialect = .draft2019 then ["$ref"] else ["$ref", "$dynamicRef"])
    let byRecursion ← (do
      if f.dialect = .draft2019 && schema.has "$recursiveRef" then
        match env.index.lookupRecursive f.scope with
        | .ok target => return led target
        | .error e => throw (.bareReference e)
      else return [] : Except Stop (List (Frame × Value)))
    let byNeed := match v with
      | .object doc =>
        (((schema.get? "dependentSchemas").bind Value.members?).getD []).filterMap
          fun (key, s) => if Members.has doc key then some (f, s) else none
      | _ => []
    let byCondition ← (match schema.get? "if" with
      | some test => do
        if ← isValid n env f test v then
          return [(f, test)] ++ ((schema.get? "then").map ((f, ·))).toList
        else return ((schema.get? "else").map ((f, ·))).toList
      | none => pure [] : Except Stop (List (Frame × Value)))
    let byList ← gather (fun key =>
      gather (fun s => do
        if ← (descend n env f none none s v).isClean then return [(f, s)] else return [])
        (((schema.get? key).map listOf).getD [])) ["allOf", "oneOf", "anyOf"]
    return byReference ++ byRecursion ++ byNeed ++ byCondition ++ byList

/-- The indexes of the items that a schema takes care of. -/
def evaluatedItems : (depth : Nat) → Setting → Frame → Value → List Value →
    Except Stop (List Nat)
  | 0, _, _, _, _ => .error .tooDeep
  | n + 1, env, f, .object schema, xs => do
    let legacy := f.dialect = .draft2019
    let itemsAreAll := match Members.get? schema "items" with
      | none => false
      | some s => !legacy || Members.has schema "additionalItems" || s.isObject
    if itemsAreAll then return List.range xs.length
    let leading ← (if legacy then itemsLength schema
      else pure (leadingLength schema) : Except Stop Nat)
    let byTest ← gather (fun key =>
      match Members.get? schema key with
      | some s => indexesPassing (isValid n env f s) 0 xs
      | none => .ok []) ["contains", "unevaluatedItems"]
    let others ← applied n env f schema (.array xs)
    let byOthers ← gather (fun (f', s) => evaluatedItems n env f' s xs) others
    return List.range leading ++ byTest ++ byOthers
  | _ + 1, _, _, _, _ => .ok []

/-- The keys of the members that a schema takes care of. -/
def evaluatedKeys : (depth : Nat) → Setting → Frame → Value → Members →
    Except Stop (List String)
  | 0, _, _, _, _ => .error .tooDeep
  | n + 1, env, f, .object schema, doc => do
    let byName ← gather (fun key =>
      match Members.get? schema key with
      | none => .ok []
      | some (.bool true) =>
        .ok (if key = "properties" && f.dialect = .draft2020 then [] else doc.keys)
      | some s =>
        if key = "properties" || f.dialect = .draft2019 then
          .ok ((s.members?.getD []).keys.filter fun k => Members.has doc k)
        else gather (fun (k, part) => do
          return if ← (descend n env f none none s part).isClean then [k] else []) doc)
      ["properties", "additionalProperties", "unevaluatedProperties"]
    let patterns := ((Members.get? schema "patternProperties").bind Value.members?).getD []
    let byPattern ← gather (fun key => do
      return if ← patterns.keys.anyM (patternFound · key) then [key] else []) doc.keys
    let others ← applied n env f schema (.object doc)
    let byOthers ← gather (fun (f', s) => evaluatedKeys n env f' s doc) others
    return byName ++ byPattern ++ byOthers
  | _ + 1, _, _, _, _ => .ok []

end

end ContractDrift.Schema
