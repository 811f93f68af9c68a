/-
The schemas that schemas satisfy, one for each dialect; those of the later dialects are
divided into vocabularies.
-/
import ContractDrift.Json.Value

namespace ContractDrift.Schema.MetaSchema

open ContractDrift.Json (Value)

/-- The schema of a type. -/
def typed (name : String) : Value := .object [("type", .text name)]

/-- The schema that another one stands for. -/
def ref (target : String) : Value := .object [("$ref", .text target)]

/-- The schema of a switch that is off. -/
def flag : Value := .object [("type", .text "boolean"), ("default", .bool false)]

/-- The outermost schema that lets itself be extended. -/
def recursive : Value := .object [("$recursiveRef", .text "#")]

/-- The outermost schema with the anchor of meta-schemas. -/
def dynamic : Value := .object [("$dynamicRef", .text "#meta")]

/-- An array of texts. -/
def texts (xs : List String) : Value := .array (xs.map .text)

/-- Draft 3. -/
def draft3 : Value :=
  .object
    [("$schema", .text "http://json-schema.org/draft-03/schema#"),
     ("id", .text "http://json-schema.org/draft-03/schema#"),
     ("type", .text "object"),
     ("properties", .object
      [("type", .object
        [("type", texts ["string", "array"]),
         ("items", .object [("type", .array [.text "string", ref "#"])]),
         ("uniqueItems", .bool true),
         ("default", .text "any")]),
       ("properties", .object
        [("type", .text "object"),
         ("additionalProperties", .object [("$ref", .text "#"), ("type", .text "object")]),
         ("default", .object [])]),
       ("patternProperties", .object
        [("type", .text "object"),
         ("additionalProperties", ref "#"),
         ("default", .object [])]),
       ("additionalProperties", .object
        [("type", .array [ref "#", .text "boolean"]),
         ("default", .object [])]),
       ("items", .object
        [("type", .array [ref "#", .text "array"]),
         ("items", ref "#"),
         ("default", .object [])]),
       ("additionalItems", .object
        [("type", .array [ref "#", .text "boolean"]),
         ("default", .object [])]),
       ("required", flag),
       ("dependencies", .object
        [("type", .text "object"),
         ("additionalProperties", .object
          [("type", .array [.text "string", .text "array", ref "#"]),
           ("items", typed "string")]),
         ("default", .object [])]),
       ("minimum", typed "number"),
       ("maximum", typed "number"),
       ("exclusiveMinimum", flag),
       ("exclusiveMaximum", flag),
       ("minItems", .object [("type", .text "integer"), ("minimum", .int 0), ("default", .int 0)]),
       ("maxItems", .object [("type", .text "integer"), ("minimum", .int 0)]),
       ("uniqueItems", flag),
       ("pattern", .object [("type", .text "string"), ("format", .text "regex")]),
       ("minLength", .object [("type", .text "integer"), ("minimum", .int 0), ("default", .int 0)]),
       ("maxLength", typed "integer"),
       ("enum", .object
        [("type", .text "array"),
         ("minItems", .int 1),
         ("uniqueItems", .bool true)]),
       ("default", typed "any"),
       ("title", typed "string"),
       ("description", typed "string"),
       ("format", typed "string"),
       ("divisibleBy", .object
        [("type", .text "number"),
         ("minimum", .int 0),
         ("exclusiveMinimum", .bool true),
         ("default", .int 1)]),
       ("disallow", .object
        [("type", texts ["string", "array"]),
         ("items", .object [("type", .array [.text "string", ref "#"])]),
         ("uniqueItems", .bool true)]),
       ("extends", .object
        [("type", .array [ref "#", .text "array"]),
         ("items", ref "#"),
         ("default", .object [])]),
       ("id", typed "string"),
       ("$ref", typed "string"),
       ("$schema", .object [("type", .text "string"), ("format", .text "uri")])]),
     ("dependencies", .object
      [("exclusiveMinimum", .text "minimum"),
       ("exclusiveMaximum", .text "maximum")]),
     ("default", .object [])]

/-- Draft 4. -/
def draft4 : Value :=
  .object
    [("id", .text "http://json-schema.org/draft-04/schema#"),
     ("$schema", .text "http://json-schema.org/draft-04/schema#"),
     ("description", .text "Core schema meta-schema"),
     ("definitions", .object
      [("schemaArray", .object [("type", .text "array"), ("minItems", .int 1), ("items", ref "#")]),
       ("positiveInteger", .object [("type", .text "integer"), ("minimum", .int 0)]),
       ("positiveIntegerDefault0", .object
        [("allOf", .array [ref "#/definitions/positiveInteger", .object [("default", .int 0)]])]),
       ("simpleTypes", .object
        [("enum", texts ["array", "boolean", "integer", "null", "number", "object", "string"])]),
       ("stringArray", .object
        [("type", .text "array"),
         ("items", typed "string"),
         ("minItems", .int 1),
         ("uniqueItems", .bool true)])]),
     ("type", .text "object"),
     ("properties", .object
      [("id", typed "string"),
       ("$schema", typed "string"),
       ("title", typed "string"),
       ("description", typed "string"),
       ("default", .object []),
       ("multipleOf", .object
        [("type", .text "number"),
         ("minimum", .int 0),
         ("exclusiveMinimum", .bool true)]),
       ("maximum", typed "number"),
       ("exclusiveMaximum", typed "boolean"),
       ("minimum", typed "number"),
       ("exclusiveMinimum", typed "boolean"),
       ("maxLength", ref "#/definitions/positiveInteger"),
       ("minLength", ref "#/definitions/positiveIntegerDefault0"),
       ("pattern", .object [("type", .text "string"), ("format", .text "regex")]),
       ("additionalItems", .object
        [("anyOf", .array [typed "boolean", ref "#"]),
         ("default", .object [])]),
       ("items", .object
        [("anyOf", .array [ref "#", ref "#/definitions/schemaArray"]),
         ("default", .object [])]),
       ("maxItems", ref "#/definitions/positiveInteger"),
       ("minItems", ref "#/definitions/positiveIntegerDefault0"),
       ("uniqueItems", flag),
       ("maxProperties", ref "#/definitions/positiveInteger"),
       ("minProperties", ref "#/definitions/positiveIntegerDefault0"),
       ("required", ref "#/definitions/stringArray"),
       ("additionalProperties", .object
        [("anyOf", .array [typed "boolean", ref "#"]),
         ("default", .object [])]),
       ("definitions", .object
        [("type", .text "object"),
         ("additionalProperties", ref "#"),
         ("default", .object [])]),
       ("properties", .object
        [("type", .text "object"),
         ("additionalProperties", ref "#"),
         ("default", .object [])]),
       ("patternProperties", .object
        [("type", .text "object"),
         ("additionalProperties", ref "#"),
         ("default", .object [])]),
       ("dependencies", .object
        [("type", .text "object"),
         ("additionalProperties", .object
          [("anyOf", .array [ref "#", ref "#/definitions/stringArray"])])]),
       ("enum", .object
        [("type", .text "array"),
         ("minItems", .int 1),
         ("uniqueItems", .bool true)]),
       ("type", .object
        [("anyOf", .array
          [ref "#/definitions/simpleTypes",
           .object
            [("type", .text "array"),
             ("items", ref "#/definitions/simpleTypes"),
             ("minItems", .int 1),
             ("uniqueItems", .bool true)]])]),
       ("format", typed "string"),
       ("allOf", ref "#/definitions/schemaArray"),
       ("anyOf", ref "#/definitions/schemaArray"),
       ("oneOf", ref "#/definitions/schemaArray"),
       ("not", ref "#")]),
     ("dependencies", .object
      [("exclusiveMaximum", texts ["maximum"]),
       ("exclusiveMinimum", texts ["minimum"])]),
     ("default", .object [])]

/-- Draft 6. -/
def draft6 : Value :=
  .object
    [("$schema", .text "http://json-schema.org/draft-06/schema#"),
     ("$id", .text "http://json-schema.org/draft-06/schema#"),
     ("title", .text "Core schema meta-schema"),
     ("definitions", .object
      [("schemaArray", .object [("type", .text "array"), ("minItems", .int 1), ("items", ref "#")]),
       ("nonNegativeInteger", .object [("type", .text "integer"), ("minimum", .int 0)]),
       ("nonNegativeIntegerDefault0", .object
        [("allOf", .array
          [ref "#/definitions/nonNegativeInteger",
           .object [("default", .int 0)]])]),
       ("simpleTypes", .object
        [("enum", texts ["array", "boolean", "integer", "null", "number", "object", "string"])]),
       ("stringArray", .object
        [("type", .text "array"),
         ("items", typed "string"),
         ("uniqueItems", .bool true),
         ("default", .array [])])]),
     ("type", texts ["object", "boolean"]),
     ("properties", .object
      [("$id", .object [("type", .text "string"), ("format", .text "uri-reference")]),
       ("$schema", .object [("type", .text "string"), ("format", .text "uri")]),
       ("$ref", .object [("type", .text "string"), ("format", .text "uri-reference")]),
       ("title", typed "string"),
       ("description", typed "string"),
       ("default", .object []),
       ("examples", .object [("type", .text "array"), ("items", .object [])]),
       ("multipleOf", .object [("type", .text "number"), ("exclusiveMinimum", .int 0)]),
       ("maximum", typed "number"),
       ("exclusiveMaximum", typed "number"),
       ("minimum", typed "number"),
       ("exclusiveMinimum", typed "number"),
       ("maxLength", ref "#/definitions/nonNegativeInteger"),
       ("minLength", ref "#/definitions/nonNegativeIntegerDefault0"),
       ("pattern", .object [("type", .text "string"), ("format", .text "regex")]),
       ("additionalItems", ref "#"),
       ("items", .object
        [("anyOf", .array [ref "#", ref "#/definitions/schemaArray"]),
         ("default", .object [])]),
       ("maxItems", ref "#/definitions/nonNegativeInteger"),
       ("minItems", ref "#/definitions/nonNegativeIntegerDefault0"),
       ("uniqueItems", flag),
       ("contains", ref "#"),
       ("maxProperties", ref "#/definitions/nonNegativeInteger"),
       ("minProperties", ref "#/definitions/nonNegativeIntegerDefault0"),
       ("required", ref "#/definitions/stringArray"),
       ("additionalProperties", ref "#"),
       ("definitions", .object
        [("type", .text "object"),
         ("additionalProperties", ref "#"),
         ("default", .object [])]),
       ("properties", .object
        [("type", .text "object"),
         ("additionalProperties", ref "#"),
         ("default", .object [])]),
       ("patternProperties", .object
        [("type", .text "object"),
         ("additionalProperties", ref "#"),
         ("default", .object [])]),
       ("dependencies", .object
        [("type", .text "object"),
         ("additionalProperties", .object
          [("anyOf", .array [ref "#", ref "#/definitions/stringArray"])])]),
       ("propertyNames", ref "#"),
       ("const", .object []),
       ("enum", .object
        [("type", .text "array"),
         ("minItems", .int 1),
         ("uniqueItems", .bool true)]),
       ("type", .object
        [("anyOf", .array
          [ref "#/definitions/simpleTypes",
           .object
            [("type", .text "array"),
             ("items", ref "#/definitions/simpleTypes"),
             ("minItems", .int 1),
             ("uniqueItems", .bool true)]])]),
       ("format", typed "string"),
       ("allOf", ref "#/definitions/schemaArray"),
       ("anyOf", ref "#/definitions/schemaArray"),
       ("oneOf", ref "#/definitions/schemaArray"),
       ("not", ref "#")]),
     ("default", .object [])]

/-- Draft 7. -/
def draft7 : Value :=
  .object
    [("$schema", .text "http://json-schema.org/draft-07/schema#"),
     ("$id", .text "http://json-schema.org/draft-07/schema#"),
     ("title", .text "Core schema meta-schema"),
     ("definitions", .object
      [("schemaArray", .object [("type", .text "array"), ("minItems", .int 1), ("items", ref "#")]),
       ("nonNegativeInteger", .object [("type", .text "integer"), ("minimum", .int 0)]),
       ("nonNegativeIntegerDefault0", .object
        [("allOf", .array
          [ref "#/definitions/nonNegativeInteger",
           .object [("default", .int 0)]])]),
       ("simpleTypes", .object
        [("enum", texts ["array", "boolean", "integer", "null", "number", "object", "string"])]),
       ("stringArray", .object
        [("type", .text "array"),
         ("items", typed "string"),
         ("uniqueItems", .bool true),
         ("default", .array [])])]),
     ("type", texts ["object", "boolean"]),
     ("properties", .object
      [("$id", .object [("type", .text "string"), ("format", .text "uri-reference")]),
       ("$schema", .object [("type", .text "string"), ("format", .text "uri")]),
       ("$ref", .object [("type", .text "string"), ("format", .text "uri-reference")]),
       ("$comment", typed "string"),
       ("title", typed "string"),
       ("description", typed "string"),
       ("default", .bool true),
       ("readOnly", flag),
       ("examples", .object [("type", .text "array"), ("items", .bool true)]),
       ("multipleOf", .object [("type", .text "number"), ("exclusiveMinimum", .int 0)]),
       ("maximum", typed "number"),
       ("exclusiveMaximum", typed "number"),
       ("minimum", typed "number"),
       ("exclusiveMinimum", typed "number"),
       ("maxLength", ref "#/definitions/nonNegativeInteger"),
       ("minLength", ref "#/definitions/nonNegativeIntegerDefault0"),
       ("pattern", .object [("type", .text "string"), ("format", .text "regex")]),
       ("additionalItems", ref "#"),
       ("items", .object
        [("anyOf", .array [ref "#", ref "#/definitions/schemaArray"]),
         ("default", .bool true)]),
       ("maxItems", ref "#/definitions/nonNegativeInteger"),
       ("minItems", ref "#/definitions/nonNegativeIntegerDefault0"),
       ("uniqueItems", flag),
       ("contains", ref "#"),
       ("maxProperties", ref "#/definitions/nonNegativeInteger"),
       ("minProperties", ref "#/definitions/nonNegativeIntegerDefault0"),
       ("required", ref "#/definitions/stringArray"),
       ("additionalProperties", ref "#"),
       ("definitions", .object
        [("type", .text "object"),
         ("additionalProperties", ref "#"),
         ("default", .object [])]),
       ("properties", .object
        [("type", .text "object"),
         ("additionalProperties", ref "#"),
         ("default", .object [])]),
       ("patternProperties", .object
        [("type", .text "object"),
         ("additionalProperties", ref "#"),
         ("propertyNames", .object [("format", .text "regex")]),
         ("default", .object [])]),
       ("dependencies", .object
        [("type", .text "object"),
         ("additionalProperties", .object
          [("anyOf", .array [ref "#", ref "#/definitions/stringArray"])])]),
       ("propertyNames", ref "#"),
       ("const", .bool true),
       ("enum", .object [("type", .text "array"), ("items", .bool true)]),
       ("type", .object
        [("anyOf", .array
          [ref "#/definitions/simpleTypes",
           .object
            [("type", .text "array"),
             ("items", ref "#/definitions/simpleTypes"),
             ("minItems", .int 1),
             ("uniqueItems", .bool true)]])]),
       ("format", typed "string"),
       ("contentMediaType", typed "string"),
       ("contentEncoding", typed "string"),
       ("if", ref "#"),
       ("then", ref "#"),
       ("else", ref "#"),
       ("allOf", ref "#/definitions/schemaArray"),
       ("anyOf", ref "#/definitions/schemaArray"),
       ("oneOf", ref "#/definitions/schemaArray"),
       ("not", ref "#")]),
     ("default", .bool true)]

/-- The schema of 2019-09, which is put together from its vocabularies. -/
def schema2019 : Value :=
  .object
    [("$schema", .text "https://json-schema.org/draft/2019-09/schema"),
     ("$id", .text "https://json-schema.org/draft/2019-09/schema"),
     ("$recursiveAnchor", .bool true),
     ("title", .text "Core and Validation specifications meta-schema"),
     ("allOf", .array
      [ref "meta/core",
       ref "meta/applicator",
       ref "meta/validation",
       ref "meta/meta-data",
       ref "meta/format",
       ref "meta/content"]),
     ("type", texts ["object", "boolean"]),
     ("properties", .object
      [("definitions", .object
        [("$comment", .text
          ("While no longer an official keyword as it is replaced by $defs, this keyword is " ++
            "retained in the meta-schema to prevent incompatible extensions as it remains in " ++
            "common use.")),
         ("type", .text "object"),
         ("additionalProperties", recursive),
         ("default", .object [])]),
       ("dependencies", .object
        [("$comment", .text
          ("\"dependencies\" is no longer a keyword, but schema authors should avoid " ++
            "redefining it to facilitate a smooth transition to \"dependentSchemas\" and " ++
            "\"dependentRequired\"")),
         ("type", .text "object"),
         ("additionalProperties", .object
          [("anyOf", .array [recursive, ref "meta/validation#/$defs/stringArray"])])])])]

/-- Identifiers and references of 2019-09. -/
def core2019 : Value :=
  .object
    [("$schema", .text "https://json-schema.org/draft/2019-09/schema"),
     ("$id", .text "https://json-schema.org/draft/2019-09/meta/core"),
     ("$recursiveAnchor", .bool true),
     ("title", .text "Core vocabulary meta-schema"),
     ("type", texts ["object", "boolean"]),
     ("properties", .object
      [("$id", .object
        [("type", .text "string"),
         ("format", .text "uri-reference"),
         ("$comment", .text "Non-empty fragments not allowed."),
         ("pattern", .text "^[^#]*#?$")]),
       ("$schema", .object [("type", .text "string"), ("format", .text "uri")]),
       ("$anchor", .object
        [("type", .text "string"),
         ("pattern", .text "^[A-Za-z][-A-Za-z0-9.:_]*$")]),
       ("$ref", .object [("type", .text "string"), ("format", .text "uri-reference")]),
       ("$recursiveRef", .object [("type", .text "string"), ("format", .text "uri-reference")]),
       ("$recursiveAnchor", flag),
       ("$vocabulary", .object
        [("type", .text "object"),
         ("propertyNames", .object [("type", .text "string"), ("format", .text "uri")]),
         ("additionalProperties", typed "boolean")]),
       ("$comment", typed "string"),
       ("$defs", .object
        [("type", .text "object"),
         ("additionalProperties", recursive),
         ("default", .object [])])])]

/-- Keywords of 2019-09 that apply subschemas. -/
def applicator2019 : Value :=
  .object
    [("$schema", .text "https://json-schema.org/draft/2019-09/schema"),
     ("$id", .text "https://json-schema.org/draft/2019-09/meta/applicator"),
     ("$recursiveAnchor", .bool true),
     ("title", .text "Applicator vocabulary meta-schema"),
     ("properties", .object
      [("additionalItems", recursive),
       ("unevaluatedItems", recursive),
       ("items", .object [("anyOf", .array [recursive, ref "#/$defs/schemaArray"])]),
       ("contains", recursive),
       ("additionalProperties", recursive),
       ("unevaluatedProperties", recursive),
       ("properties", .object
        [("type", .text "object"),
         ("additionalProperties", recursive),
         ("default", .object [])]),
       ("patternProperties", .object
        [("type", .text "object"),
         ("additionalProperties", recursive),
         ("propertyNames", .object [("format", .text "regex")]),
         ("default", .object [])]),
       ("dependentSchemas", .object
        [("type", .text "object"),
         ("additionalProperties", recursive)]),
       ("propertyNames", recursive),
       ("if", recursive),
       ("then", recursive),
       ("else", recursive),
       ("allOf", ref "#/$defs/schemaArray"),
       ("anyOf", ref "#/$defs/schemaArray"),
       ("oneOf", ref "#/$defs/schemaArray"),
       ("not", recursive)]),
     ("$defs", .object
      [("schemaArray", .object
        [("type", .text "array"),
         ("minItems", .int 1),
         ("items", recursive)])])]

/-- Assertions of 2019-09. -/
def validation2019 : Value :=
  .object
    [("$schema", .text "https://json-schema.org/draft/2019-09/schema"),
     ("$id", .text "https://json-schema.org/draft/2019-09/meta/validation"),
     ("$recursiveAnchor", .bool true),
     ("title", .text "Validation vocabulary meta-schema"),
     ("type", texts ["object", "boolean"]),
     ("properties", .object
      [("multipleOf", .object [("type", .text "number"), ("exclusiveMinimum", .int 0)]),
       ("maximum", typed "number"),
       ("exclusiveMaximum", typed "number"),
       ("minimum", typed "number"),
       ("exclusiveMinimum", typed "number"),
       ("maxLength", ref "#/$defs/nonNegativeInteger"),
       ("minLength", ref "#/$defs/nonNegativeIntegerDefault0"),
       ("pattern", .object [("type", .text "string"), ("format", .text "regex")]),
       ("maxItems", ref "#/$defs/nonNegativeInteger"),
       ("minItems", ref "#/$defs/nonNegativeIntegerDefault0"),
       ("uniqueItems", flag),
       ("maxContains", ref "#/$defs/nonNegativeInteger"),
       ("minContains", .object [("$ref", .text "#/$defs/nonNegativeInteger"), ("default", .int 1)]),
       ("maxProperties", ref "#/$defs/nonNegativeInteger"),
       ("minProperties", ref "#/$defs/nonNegativeIntegerDefault0"),
       ("required", ref "#/$defs/stringArray"),
       ("dependentRequired", .object
        [("type", .text "object"),
         ("additionalProperties", ref "#/$defs/stringArray")]),
       ("const", .bool true),
       ("enum", .object [("type", .text "array"), ("items", .bool true)]),
       ("type", .object
        [("anyOf", .array
          [ref "#/$defs/simpleTypes",
           .object
            [("type", .text "array"),
             ("items", ref "#/$defs/simpleTypes"),
             ("minItems", .int 1),
             ("uniqueItems", .bool true)]])])]),
     ("$defs", .object
      [("nonNegativeInteger", .object [("type", .text "integer"), ("minimum", .int 0)]),
       ("nonNegativeIntegerDefault0", .object
        [("$ref", .text "#/$defs/nonNegativeInteger"),
         ("default", .int 0)]),
       ("simpleTypes", .object
        [("enum", texts ["array", "boolean", "integer", "null", "number", "object", "string"])]),
       ("stringArray", .object
        [("type", .text "array"),
         ("items", typed "string"),
         ("uniqueItems", .bool true),
         ("default", .array [])])])]

/-- Annotations of 2019-09. -/
def metadata2019 : Value :=
  .object
    [("$schema", .text "https://json-schema.org/draft/2019-09/schema"),
     ("$id", .text "https://json-schema.org/draft/2019-09/meta/meta-data"),
     ("$recursiveAnchor", .bool true),
     ("title", .text "Meta-data vocabulary meta-schema"),
     ("type", texts ["object", "boolean"]),
     ("properties", .object
      [("title", typed "string"),
       ("description", typed "string"),
       ("default", .bool true),
       ("deprecated", flag),
       ("readOnly", flag),
       ("writeOnly", flag),
       ("examples", .object [("type", .text "array"), ("items", .bool true)])])]

/-- Formats of 2019-09. -/
def format2019 : Value :=
  .object
    [("$schema", .text "https://json-schema.org/draft/2019-09/schema"),
     ("$id", .text "https://json-schema.org/draft/2019-09/meta/format"),
     ("$recursiveAnchor", .bool true),
     ("title", .text "Format vocabulary meta-schema"),
     ("type", texts ["object", "boolean"]),
     ("properties", .object [("format", typed "string")])]

/-- Encoded contents of 2019-09. -/
def content2019 : Value :=
  .object
    [("$schema", .text "https://json-schema.org/draft/2019-09/schema"),
     ("$id", .text "https://json-schema.org/draft/2019-09/meta/content"),
     ("$recursiveAnchor", .bool true),
     ("title", .text "Content vocabulary meta-schema"),
     ("type", texts ["object", "boolean"]),
     ("properties", .object
      [("contentMediaType", typed "string"),
       ("contentEncoding", typed "string"),
       ("contentSchema", recursive)])]

/-- The schema of 2020-12, which is put together from its vocabularies. -/
def schema2020 : Value :=
  .object
    [("$schema", .text "https://json-schema.org/draft/2020-12/schema"),
     ("$id", .text "https://json-schema.org/draft/2020-12/schema"),
     ("$dynamicAnchor", .text "meta"),
     ("title", .text "Core and Validation specifications meta-schema"),
     ("allOf", .array
      [ref "meta/core",
       ref "meta/applicator",
       ref "meta/unevaluated",
       ref "meta/validation",
       ref "meta/meta-data",
       ref "meta/format-annotation",
       ref "meta/content"]),
     ("type", texts ["object", "boolean"]),
     ("$comment", .text
      ("This meta-schema also defines keywords that have appeared in previous drafts in " ++
        "order to prevent incompatible extensions as they remain in common use.")),
     ("properties", .object
      [("definitions", .object
        [("$comment", .text "\"definitions\" has been replaced by \"$defs\"."),
         ("type", .text "object"),
         ("additionalProperties", dynamic),
         ("deprecated", .bool true),
         ("default", .object [])]),
       ("dependencies", .object
        [("$comment", .text
          ("\"dependencies\" has been split and replaced by \"dependentSchemas\" and " ++
            "\"dependentRequired\" in order to serve their differing semantics.")),
         ("type", .text "object"),
         ("additionalProperties", .object
          [("anyOf", .array [dynamic, ref "meta/validation#/$defs/stringArray"])]),
         ("deprecated", .bool true),
         ("default", .object [])]),
       ("$recursiveAnchor", .object
        [("$comment", .text "\"$recursiveAnchor\" has been replaced by \"$dynamicAnchor\"."),
         ("$ref", .text "meta/core#/$defs/anchorString"),
         ("deprecated", .bool true)]),
       ("$recursiveRef", .object
        [("$comment", .text "\"$recursiveRef\" has been replaced by \"$dynamicRef\"."),
         ("$ref", .text "meta/core#/$defs/uriReferenceString"),
         ("deprecated", .bool true)])])]

/-- Identifiers and references of 2020-12. -/
def core2020 : Value :=
  .object
    [("$schema", .text "https://json-schema.org/draft/2020-12/schema"),
     ("$id", .text "https://json-schema.org/draft/2020-12/meta/core"),
     ("$dynamicAnchor", .text "meta"),
     ("title", .text "Core vocabulary meta-schema"),
     ("type", texts ["object", "boolean"]),
     ("properties", .object
      [("$id", .object
        [("$ref", .text "#/$defs/uriReferenceString"),
         ("$comment", .text "Non-empty fragments not allowed."),
         ("pattern", .text "^[^#]*#?$")]),
       ("$schema", ref "#/$defs/uriString"),
       ("$ref", ref "#/$defs/uriReferenceString"),
       ("$anchor", ref "#/$defs/anchorString"),
       ("$dynamicRef", ref "#/$defs/uriReferenceString"),
       ("$dynamicAnchor", ref "#/$defs/anchorString"),
       ("$vocabulary", .object
        [("type", .text "object"),
         ("propertyNames", ref "#/$defs/uriString"),
         ("additionalProperties", typed "boolean")]),
       ("$comment", typed "string"),
       ("$defs", .object [("type", .text "object"), ("additionalProperties", dynamic)])]),
     ("$defs", .object
      [("anchorString", .object
        [("type", .text "string"),
         ("pattern", .text "^[A-Za-z_][-A-Za-z0-9._]*$")]),
       ("uriString", .object [("type", .text "string"), ("format", .text "uri")]),
       ("uriReferenceString", .object
        [("type", .text "string"),
         ("format", .text "uri-reference")])])]

/-- Keywords of 2020-12 that apply subschemas. -/
def applicator2020 : Value :=
  .object
    [("$schema", .text "https://json-schema.org/draft/2020-12/schema"),
     ("$id", .text "https://json-schema.org/draft/2020-12/meta/applicator"),
     ("$dynamicAnchor", .text "meta"),
     ("title", .text "Applicator vocabulary meta-schema"),
     ("type", texts ["object", "boolean"]),
     ("properties", .object
      [("prefixItems", ref "#/$defs/schemaArray"),
       ("items", dynamic),
       ("contains", dynamic),
       ("additionalProperties", dynamic),
       ("properties", .object
        [("type", .text "object"),
         ("additionalProperties", dynamic),
         ("default", .object [])]),
       ("patternProperties", .object
        [("type", .text "object"),
         ("additionalProperties", dynamic),
         ("propertyNames", .object [("format", .text "regex")]),
         ("default", .object [])]),
       ("dependentSchemas", .object
        [("type", .text "object"),
         ("additionalProperties", dynamic),
         ("default", .object [])]),
       ("propertyNames", dynamic),
       ("if", dynamic),
       ("then", dynamic),
       ("else", dynamic),
       ("allOf", ref "#/$defs/schemaArray"),
       ("anyOf", ref "#/$defs/schemaArray"),
       ("oneOf", ref "#/$defs/schemaArray"),
       ("not", dynamic)]),
     ("$defs", .object
      [("schemaArray", .object
        [("type", .text "array"),
         ("minItems", .int 1),
         ("items", dynamic)])])]

/-- Keywords of 2020-12 for what no other keyword has evaluated. -/
def unevaluated2020 : Value :=
  .object
    [("$schema", .text "https://json-schema.org/draft/2020-12/schema"),
     ("$id", .text "https://json-schema.org/draft/2020-12/meta/unevaluated"),
     ("$dynamicAnchor", .text "meta"),
     ("title", .text "Unevaluated applicator vocabulary meta-schema"),
     ("type", texts ["object", "boolean"]),
     ("properties", .object [("unevaluatedItems", dynamic), ("unevaluatedProperties", dynamic)])]

/-- Assertions of 2020-12. -/
def validation2020 : Value :=
  .object
    [("$schema", .text "https://json-schema.org/draft/2020-12/schema"),
     ("$id", .text "https://json-schema.org/draft/2020-12/meta/validation"),
     ("$dynamicAnchor", .text "meta"),
     ("title", .text "Validation vocabulary meta-schema"),
     ("type", texts ["object", "boolean"]),
     ("properties", .object
      [("type", .object
        [("anyOf", .array
          [ref "#/$defs/simpleTypes",
           .object
            [("type", .text "array"),
             ("items", ref "#/$defs/simpleTypes"),
             ("minItems", .int 1),
             ("uniqueItems", .bool true)]])]),
       ("const", .bool true),
       ("enum", .object [("type", .text "array"), ("items", .bool true)]),
       ("multipleOf", .object [("type", .text "number"), ("exclusiveMinimum", .int 0)]),
       ("maximum", typed "number"),
       ("exclusiveMaximum", typed "number"),
       ("minimum", typed "number"),
       ("exclusiveMinimum", typed "number"),
       ("maxLength", ref "#/$defs/nonNegativeInteger"),
       ("minLength", ref "#/$defs/nonNegativeIntegerDefault0"),
       ("pattern", .object [("type", .text "string"), ("format", .text "regex")]),
       ("maxItems", ref "#/$defs/nonNegativeInteger"),
       ("minItems", ref "#/$defs/nonNegativeIntegerDefault0"),
       ("uniqueItems", flag),
       ("maxContains", ref "#/$defs/nonNegativeInteger"),
       ("minContains", .object [("$ref", .text "#/$defs/nonNegativeInteger"), ("default", .int 1)]),
       ("maxProperties", ref "#/$defs/nonNegativeInteger"),
       ("minProperties", ref "#/$defs/nonNegativeIntegerDefault0"),
       ("required", ref "#/$defs/stringArray"),
       ("dependentRequired", .object
        [("type", .text "object"),
         ("additionalProperties", ref "#/$defs/stringArray")])]),
     ("$defs", .object
      [("nonNegativeInteger", .object [("type", .text "integer"), ("minimum", .int 0)]),
       ("nonNegativeIntegerDefault0", .object
        [("$ref", .text "#/$defs/nonNegativeInteger"),
         ("default", .int 0)]),
       ("simpleTypes", .object
        [("enum", texts ["array", "boolean", "integer", "null", "number", "object", "string"])]),
       ("stringArray", .object
        [("type", .text "array"),
         ("items", typed "string"),
         ("uniqueItems", .bool true),
         ("default", .array [])])])]

/-- Annotations of 2020-12. -/
def metadata2020 : Value :=
  .object
    [("$schema", .text "https://json-schema.org/draft/2020-12/schema"),
     ("$id", .text "https://json-schema.org/draft/2020-12/meta/meta-data"),
     ("$dynamicAnchor", .text "meta"),
     ("title", .text "Meta-data vocabulary meta-schema"),
     ("type", texts ["object", "boolean"]),
     ("properties", .object
      [("title", typed "string"),
       ("description", typed "string"),
       ("default", .bool true),
       ("deprecated", flag),
       ("readOnly", flag),
       ("writeOnly", flag),
       ("examples", .object [("type", .text "array"), ("items", .bool true)])])]

/-- Formats of 2020-12 as annotations. -/
def format2020 : Value :=
  .object
    [("$schema", .text "https://json-schema.org/draft/2020-12/schema"),
     ("$id", .text "https://json-schema.org/draft/2020-12/meta/format-annotation"),
     ("$dynamicAnchor", .text "meta"),
     ("title", .text "Format vocabulary meta-schema for annotation results"),
     ("type", texts ["object", "boolean"]),
     ("properties", .object [("format", typed "string")])]

/-- Formats of 2020-12 as assertions. -/
def formatAssertion2020 : Value :=
  .object
    [("$schema", .text "https://json-schema.org/draft/2020-12/schema"),
     ("$id", .text "https://json-schema.org/draft/2020-12/meta/format-assertion"),
     ("$dynamicAnchor", .text "meta"),
     ("title", .text "Format vocabulary meta-schema for assertion results"),
     ("type", texts ["object", "boolean"]),
     ("properties", .object [("format", typed "string")])]

/-- Encoded contents of 2020-12. -/
def content2020 : Value :=
  .object
    [("$schema", .text "https://json-schema.org/draft/2020-12/schema"),
     ("$id", .text "https://json-schema.org/draft/2020-12/meta/content"),
     ("$dynamicAnchor", .text "meta"),
     ("title", .text "Content vocabulary meta-schema"),
     ("type", texts ["object", "boolean"]),
     ("properties", .object
      [("contentEncoding", typed "string"),
       ("contentMediaType", typed "string"),
       ("contentSchema", dynamic)])]

/-- All of these schemas. -/
def all : List Value :=
  [draft3, draft4, draft6, draft7, schema2019, core2019, applicator2019, validation2019,
   metadata2019, format2019, content2019, schema2020, core2020, applicator2020, unevaluated2020,
   validation2020, metadata2020, format2020, formatAssertion2020, content2020]

end ContractDrift.Schema.MetaSchema
