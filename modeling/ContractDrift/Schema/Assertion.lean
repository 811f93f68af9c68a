/-
Keywords that look at a document alone, without subschemas.

Each assertion gives its findings for a keyword's value and a document; one that is
about another kind of document finds nothing.
-/
import ContractDrift.Schema.Findings
import ContractDrift.Schema.Format
import ContractDrift.Json.Equality

namespace ContractDrift.Schema

open ContractDrift.Json (Value Members display plain)
open Findings (expect one stopped after each)

/-- Whether a value is a number; a boolean is none. -/
def isNumber : Value → Bool
  | .int _ => true
  | .real _ => true
  | _ => false

/-- Whether the first number is below the second. -/
def isBelow (a b : Value) : Bool := Json.compareNumbers a b == some .lt

/-- Whether the first number is at most the second. -/
def isAtMost (a b : Value) : Bool :=
  match Json.compareNumbers a b with
  | some .lt => true
  | some .eq => true
  | _ => false

/-- Whether two numbers are equal. -/
def isEqual (a b : Value) : Bool := Json.compareNumbers a b == some .eq

/-- Whether a pattern is found in a text. -/
def patternFound (pattern text : String) : Except Stop Bool :=
  match Pattern.Regex.parse pattern with
  | .ok p => .ok (p.search text)
  | .error e => .error (.pattern e)

/-- A value in a list by itself, unless it is a list. -/
def listOf : Value → List Value
  | .array xs => xs
  | v => [v]

/-- Texts of values, in a row. -/
def displayRow (xs : List Value) : String := ", ".intercalate (xs.map display)

/-- Says what some values were. -/
def leftOverAs (what : String) (xs : List Value) : String :=
  displayRow xs ++ (if xs.length = 1 then " was" else " were") ++ what

/-- Says that some values were unexpected. -/
def leftOver (xs : List Value) : String := leftOverAs " unexpected" xs

/-! ## Numbers -/

/-- The lower bound: it is itself allowed unless it is exclusive. -/
def assertMinimum (k : String) (isExclusive : Bool) (bound v : Value) : Findings :=
  if !isNumber v then .none
  else if isExclusive then
    expect (!isAtMost v bound) k
      (display v ++ " is less than or equal to the minimum of " ++ display bound)
  else expect (!isBelow v bound) k (display v ++ " is less than the minimum of " ++ display bound)

/-- The upper bound: it is itself allowed unless it is exclusive. -/
def assertMaximum (k : String) (isExclusive : Bool) (bound v : Value) : Findings :=
  if !isNumber v then .none
  else if isExclusive then
    expect (!isAtMost bound v) k
      (display v ++ " is greater than or equal to the maximum of " ++ display bound)
  else
    expect (!isBelow bound v) k (display v ++ " is greater than the maximum of " ++ display bound)

/-- A number as a float. -/
def floatOf (v : Value) : Except Stop Float :=
  match v with
  | .real x => .ok x
  | .int n =>
    match Decimal.ofInt? n with
    | some x => .ok x
    | none => .error .integerTooLarge
  | _ => .ok 0

/-- Whether a number is exactly a multiple of a float. -/
def isExactMultiple (a : Value) (b : Float) : Except Stop Bool :=
  match a, Decimal.Binary64.ofFloat b with
  | .int n, .finite _ m e => .ok (Decimal.isMultiple n.natAbs 0 m e)
  | .real x, .finite _ m e =>
    match Decimal.Binary64.ofFloat x with
    | .finite _ m' e' => .ok (Decimal.isMultiple m' e' m e)
    | _ => .error .infiniteDividend
  | _, _ => .ok false

/-- Whether a number is a multiple of another one.  By a float it is divided, and the
quotient has to be an integer; only a quotient that is too large is looked at exactly. -/
def isMultipleOf (v divisor : Value) : Except Stop Bool :=
  match v, divisor with
  | .int n, .int d => if d = 0 then .error .zeroDivisor else .ok (n % d = 0)
  | .real x, .int d => do
    if d = 0 then throw .zeroDivisor
    let d ← floatOf (.int d)
    match Decimal.Binary64.ofFloat x with
    | .finite _ _ _ => isExactMultiple (.real x) d
    | _ => return false
  | v, .real d => do
    let x ← floatOf v
    if d == 0 then throw .zeroDivisor
    let q := x / d
    match Decimal.Binary64.ofFloat q with
    | .nan => throw .quotientUndefined
    | .infinite _ => isExactMultiple v d
    | .finite _ _ _ => return (Decimal.integral? q).isSome
  | _, _ => .ok true

/-- A divisor. -/
def assertMultiple (k : String) (divisor v : Value) : Findings :=
  if !isNumber v then .none
  else after (isMultipleOf v divisor) fun ok =>
    expect ok k (display v ++ " is not a multiple of " ++ plain divisor)

/-! ## Sizes -/

/-- The least size of something whose size is `size`. -/
def assertLeastSize (k : String) (size : Nat) (bound v : Value) (tooSmall : String) : Findings :=
  expect (!isBelow (.int size) bound) k
    (display v ++ " " ++ (if isEqual bound (.int 1) then "should be non-empty" else tooSmall))

/-- The greatest size of something whose size is `size`. -/
def assertGreatestSize (k : String) (size : Nat) (bound v : Value) (tooLarge : String) :
    Findings :=
  expect (!isBelow bound (.int size)) k
    (display v ++ " " ++ (if isEqual bound (.int 0) then "is expected to be empty" else tooLarge))

/-! ## Texts -/

/-- A pattern that has to be found. -/
def assertPattern (k : String) (pattern v : Value) : Findings :=
  match pattern, v with
  | .text p, .text s =>
    after (patternFound p s) fun found =>
      expect found k (display v ++ " does not match " ++ display pattern)
  | _, _ => .none

/-- A format, if it is one of those that are checked. -/
def assertFormat (checked : List Format) (k : String) (format v : Value) : Findings :=
  match format, v with
  | .text name, .text s =>
    match Format.named.lookup name with
    | some f =>
      if checked.contains f then
        match f.check s with
        | .ok holds => expect holds k (display v ++ " is not a " ++ display format)
        | .error e => stopped (.pattern e)
      else .none
    | none => .none
  | _, _ => .none

/-! ## Any value -/

/-- The values that are allowed. -/
def assertEnum (k : String) (values v : Value) : Findings :=
  expect ((listOf values).any fun each => Json.same each v) k
    (display v ++ " is not one of " ++ display values)

/-- The only value that is allowed. -/
def assertConst (k : String) (value v : Value) : Findings :=
  expect (Json.same v value) k (display value ++ " was expected")

/-- Whether a document is of a type that a schema names. -/
def isOfType (d : Dialect) (schema : Value) (v type : Value) : Except Stop Bool :=
  match type with
  | .text name =>
    match d.isType? name v with
    | some holds => .ok holds
    | none => .error (.unknownType type schema v)
  | _ => .error (.unknownType type schema v)

/-- The types that are allowed. -/
def assertType (d : Dialect) (schema : Value) (k : String) (types v : Value) : Findings :=
  after ((listOf types).anyM (isOfType d schema v)) fun holds =>
    expect holds k (display v ++ " is not of type " ++ displayRow (listOf types))

/-! ## Objects -/

/-- Whether an object has a member; what is no text names none. -/
def hasMember (m : Members) : Value → Bool
  | .text key => m.has key
  | _ => false

/-- Members that have to be there. -/
def assertRequired (k : String) (names v : Value) : Findings :=
  match v with
  | .object m =>
    each (listOf names) fun name =>
      expect (hasMember m name) k (display name ++ " is a required property")
  | _ => .none

/-- Members that have to be there because of another one. -/
def assertNeeded (k : String) (property : String) (names : List Value) (m : Members) :
    Findings :=
  each names fun name =>
    expect (hasMember m name) k
      (display name ++ " is a dependency of " ++ Text.quoted property)

/-- Members that have to be there when others are. -/
def assertDependentRequired (k : String) (needs v : Value) : Findings :=
  match needs, v with
  | .object needs, .object m =>
    each needs fun (property, names) =>
      if Members.has m property then assertNeeded k property (listOf names) m else .none
  | _, _ => .none

/-! ## Arrays -/

/-- Items that all differ. -/
def assertUnique (k : String) (wanted v : Value) : Findings :=
  match v with
  | .array xs =>
    expect (!wanted.isTruthy || Json.allDistinct xs) k (display v ++ " has non-unique elements")
  | _ => .none

/-- What a keyword without subschemas finds. -/
def assertion (checked : List Format) (d : Dialect) (schema : Members) (keyword : Keyword)
    (k : String) (value v : Value) : Findings :=
  let exclusive (key : String) : Bool :=
    (d == .draft3 || d == .draft4) &&
      match schema.get? key with
      | some flag => flag.isTruthy
      | none => false
  match keyword, v with
  | .minimum, v => assertMinimum k (exclusive "exclusiveMinimum") value v
  | .maximum, v => assertMaximum k (exclusive "exclusiveMaximum") value v
  | .exclusiveMinimum, v => assertMinimum k true value v
  | .exclusiveMaximum, v => assertMaximum k true value v
  | .multipleOf, v => assertMultiple k value v
  | .minLength, .text s => assertLeastSize k s.length value v "is too short"
  | .maxLength, .text s => assertGreatestSize k s.length value v "is too long"
  | .minItems, .array xs => assertLeastSize k xs.length value v "is too short"
  | .maxItems, .array xs => assertGreatestSize k xs.length value v "is too long"
  | .minProperties, .object m =>
    assertLeastSize k m.length value v "does not have enough properties"
  | .maxProperties, .object m => assertGreatestSize k m.length value v "has too many properties"
  | .pattern, v => assertPattern k value v
  | .format, v => assertFormat checked k value v
  | .enum, v => assertEnum k value v
  | .const, v => assertConst k value v
  | .type, v => assertType d (.object schema) k value v
  | .required, v => assertRequired k value v
  | .dependentRequired, v => assertDependentRequired k value v
  | .uniqueItems, v => assertUnique k value v
  | _, _ => .none

end ContractDrift.Schema
