/-
Why a document is refused.

A `Fault` is the cause and `ReadError` adds the place: the line, counted from one,
and the column, counted from zero.
-/

namespace ContractDrift.Xml

/-- A cause for which a document is not well-formed. -/
inductive Fault where
  /-- A token stands where none of its kind may stand. -/
  | unexpectedToken
  | noElement
  | invalidToken
  | unclosedToken
  | partialCharacter
  | mismatchedTag
  | duplicateAttribute
  | junkAfterRoot
  | parameterReference
  | undefinedEntity
  | recursiveEntity
  | asynchronousEntity
  | invalidCharacterNumber
  | binaryEntity
  | externalEntityInAttribute
  | misplacedDeclaration
  | unknownEncoding
  | incorrectEncoding
  | unclosedCdata
  | unboundPrefix
  | undeclaredPrefix
  | malformedDeclaration
  | invalidPublicId
  | reservedXmlPrefix
  | reservedXmlnsPrefix
  | reservedNamespace
  /-- A reference in content to an entity that has no known text. -/
  | unresolvedReference (reference : String)
  deriving Repr, DecidableEq, Inhabited

/-- The wording of a cause. -/
def Fault.message : Fault → String
  | .unexpectedToken => "syntax error"
  | .noElement => "no element found"
  | .invalidToken => "not well-formed (invalid token)"
  | .unclosedToken => "unclosed token"
  | .partialCharacter => "partial character"
  | .mismatchedTag => "mismatched tag"
  | .duplicateAttribute => "duplicate attribute"
  | .junkAfterRoot => "junk after document element"
  | .parameterReference => "illegal parameter entity reference"
  | .undefinedEntity => "undefined entity"
  | .recursiveEntity => "recursive entity reference"
  | .asynchronousEntity => "asynchronous entity"
  | .invalidCharacterNumber => "reference to invalid character number"
  | .binaryEntity => "reference to binary entity"
  | .externalEntityInAttribute => "reference to external entity in attribute"
  | .misplacedDeclaration => "XML or text declaration not at start of entity"
  | .unknownEncoding => "unknown encoding"
  | .incorrectEncoding => "encoding specified in XML declaration is incorrect"
  | .unclosedCdata => "unclosed CDATA section"
  | .unboundPrefix => "unbound prefix"
  | .undeclaredPrefix => "must not undeclare prefix"
  | .malformedDeclaration => "XML declaration not well-formed"
  | .invalidPublicId => "illegal character(s) in public id"
  | .reservedXmlPrefix =>
    "reserved prefix (xml) must not be undeclared or bound to another namespace name"
  | .reservedXmlnsPrefix => "reserved prefix (xmlns) must not be declared or undeclared"
  | .reservedNamespace => "prefix must not be bound to one of the reserved namespace names"
  | .unresolvedReference r => "undefined entity " ++ r

/-- Why a document could not be read. -/
inductive ReadError where
  | malformed (fault : Fault) (line column : Nat)
  /-- The document names a character set that is not known. -/
  | unknownCharacterSet (name : String)
  /-- The document names a transformation that does not give text. -/
  | notText (name : String)
  /-- The document names a character set with characters of several octets. -/
  | multiByteCharacterSet
  deriving Repr, DecidableEq, Inhabited

/-- The wording of a refusal. -/
def ReadError.message : ReadError → String
  | .malformed f line column => s!"{f.message}: line {line}, column {column}"
  | .unknownCharacterSet name => "unknown encoding: " ++ name
  | .notText name =>
    s!"'{name}' is not a text encoding; use codecs.decode() to handle arbitrary codecs"
  | .multiByteCharacterSet => "multi-byte encodings are not supported"

end ContractDrift.Xml
