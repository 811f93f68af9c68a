/-
The dialects of JSON Schema.

A dialect has a URI, by which a schema names it, a schema that its schemas satisfy, a
set of types and a table of keywords.

Design notes: a `Keyword` is a rule and not a spelling: two dialects can spell one
rule differently, and a spelling that a dialect does not know is no rule at all.
-/
import ContractDrift.Schema.MetaSchema
import ContractDrift.Uri.Reference
import ContractDrift.Decimal.Binary64

namespace ContractDrift.Schema

open ContractDrift.Json (Value)

/-- A dialect. -/
inductive Dialect where
  | draft3
  | draft4
  | draft6
  | draft7
  | draft2019
  | draft2020
  deriving Repr, DecidableEq, Inhabited

/-- A rule that a schema can state. -/
inductive Keyword where
  | ref
  | dynamicRef
  | recursiveRef
  | additionalItems
  | additionalProperties
  | allOf
  | anyOf
  | const
  | contains
  | dependencies
  | dependentRequired
  | dependentSchemas
  | disallow
  | enum
  | exclusiveMaximum
  | exclusiveMinimum
  | base
  | format
  | condition
  | items
  | maxItems
  | maxLength
  | maxProperties
  | maximum
  | minItems
  | minLength
  | minProperties
  | minimum
  | multipleOf
  | not
  | oneOf
  | pattern
  | patternProperties
  | prefixItems
  | properties
  | propertyNames
  | required
  | type
  | unevaluatedItems
  | unevaluatedProperties
  | uniqueItems
  deriving Repr, DecidableEq, Inhabited

namespace Dialect

/-- All dialects, oldest first. -/
def all : List Dialect := [draft3, draft4, draft6, draft7, draft2019, draft2020]

/-- The URI of a dialect. -/
def uri : Dialect → String
  | draft3 => "http://json-schema.org/draft-03/schema"
  | draft4 => "http://json-schema.org/draft-04/schema"
  | draft6 => "http://json-schema.org/draft-06/schema"
  | draft7 => "http://json-schema.org/draft-07/schema"
  | draft2019 => "https://json-schema.org/draft/2019-09/schema"
  | draft2020 => "https://json-schema.org/draft/2020-12/schema"

/-- The name by which a dialect's schemas are reported. -/
def title : Dialect → String
  | draft3 => "Draft3Validator"
  | draft4 => "Draft4Validator"
  | draft6 => "Draft6Validator"
  | draft7 => "Draft7Validator"
  | draft2019 => "Draft201909Validator"
  | draft2020 => "Draft202012Validator"

/-- The schema that a dialect's schemas satisfy. -/
def metaSchema : Dialect → Value
  | draft3 => MetaSchema.draft3
  | draft4 => MetaSchema.draft4
  | draft6 => MetaSchema.draft6
  | draft7 => MetaSchema.draft7
  | draft2019 => MetaSchema.schema2019
  | draft2020 => MetaSchema.schema2020

/-- The dialect that a URI names, however it is written. -/
def ofUri? (written : String) : Option Dialect :=
  all.find? fun d => d.uri == Uri.commonForm written

/-- A URI without the empty fragments at its end. -/
def withoutHash (written : String) : String :=
  String.ofList (written.toList.reverse.dropWhile (· == '#')).reverse

/-- The dialect that a URI names, letter by letter. -/
def ofExactUri? (written : String) : Option Dialect :=
  all.find? fun d => d.uri == withoutHash written

/-- The dialect that a schema names, and the given one if it names none that is known. -/
def ofSchema (d : Dialect) (schema : Value) : Dialect :=
  match schema.get? "$schema" with
  | some (.text written) => (ofUri? written).getD d
  | _ => d

/-- Whether subschemas beside a reference have no effect. -/
def refStandsAlone : Dialect → Bool
  | draft2019 => false
  | draft2020 => false
  | _ => true

/-- Whether `id`, and not `$id`, identifies a schema. -/
def hasPlainId : Dialect → Bool
  | draft3 => true
  | draft4 => true
  | _ => false

/-- Whether a float can be an integer. -/
def admitsIntegralFloats : Dialect → Bool
  | draft3 => false
  | draft4 => false
  | _ => true

/-- Whether a value is of a type; nothing when the dialect has no such type. -/
def isType? (d : Dialect) (name : String) (v : Value) : Option Bool :=
  match name, v with
  | "null", .null => some true
  | "boolean", .bool _ => some true
  | "integer", .int _ => some true
  | "integer", .real x => some (d.admitsIntegralFloats && (Decimal.integral? x).isSome)
  | "number", .int _ => some true
  | "number", .real _ => some true
  | "string", .text _ => some true
  | "array", .array _ => some true
  | "object", .object _ => some true
  | _, _ =>
    if ["null", "boolean", "integer", "number", "string", "array", "object"].contains name then
      some false
    else if d == draft3 && name == "any" then some true
    else none

/-- The rules common to all dialects. -/
def sharedKeywords : List (String × Keyword) :=
  [("$ref", .ref), ("additionalProperties", .additionalProperties), ("enum", .enum),
   ("format", .format), ("items", .items), ("maxItems", .maxItems), ("maxLength", .maxLength),
   ("maximum", .maximum), ("minItems", .minItems), ("minLength", .minLength),
   ("minimum", .minimum), ("pattern", .pattern), ("patternProperties", .patternProperties),
   ("properties", .properties), ("type", .type), ("uniqueItems", .uniqueItems)]

/-- The rules common to the dialects after the first. -/
def laterKeywords : List (String × Keyword) :=
  sharedKeywords ++
  [("allOf", .allOf), ("anyOf", .anyOf), ("maxProperties", .maxProperties),
   ("minProperties", .minProperties), ("multipleOf", .multipleOf), ("not", .not),
   ("oneOf", .oneOf), ("required", .required)]

/-- The rules common to the dialects after the second. -/
def modernKeywords : List (String × Keyword) :=
  laterKeywords ++
  [("const", .const), ("contains", .contains), ("exclusiveMaximum", .exclusiveMaximum),
   ("exclusiveMinimum", .exclusiveMinimum), ("propertyNames", .propertyNames)]

/-- The rules of the dialects that have vocabularies. -/
def vocabularyKeywords : List (String × Keyword) :=
  modernKeywords ++
  [("if", .condition), ("dependentRequired", .dependentRequired),
   ("dependentSchemas", .dependentSchemas), ("unevaluatedItems", .unevaluatedItems),
   ("unevaluatedProperties", .unevaluatedProperties)]

/-- The rules of a dialect, by their spellings. -/
def keywords : Dialect → List (String × Keyword)
  | draft3 =>
    sharedKeywords ++
    [("additionalItems", .additionalItems), ("dependencies", .dependencies),
     ("disallow", .disallow), ("divisibleBy", .multipleOf), ("extends", .base)]
  | draft4 =>
    laterKeywords ++ [("additionalItems", .additionalItems), ("dependencies", .dependencies)]
  | draft6 =>
    modernKeywords ++ [("additionalItems", .additionalItems), ("dependencies", .dependencies)]
  | draft7 =>
    modernKeywords ++
    [("additionalItems", .additionalItems), ("dependencies", .dependencies), ("if", .condition)]
  | draft2019 =>
    vocabularyKeywords ++ [("additionalItems", .additionalItems), ("$recursiveRef", .recursiveRef)]
  | draft2020 =>
    vocabularyKeywords ++ [("prefixItems", .prefixItems), ("$dynamicRef", .dynamicRef)]

/-- The rule that a spelling stands for. -/
def keyword? (d : Dialect) (spelling : String) : Option Keyword := d.keywords.lookup spelling

end Dialect

end ContractDrift.Schema
