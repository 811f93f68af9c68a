/-
Operations of a service and the shape of their messages.

A `Field` is one element of a message, with the fields inside it if its type is
declared in place.  An `Operation` has a list of fields for each `Direction`, and the
element that wraps them in a message is named after the operation and the direction
(`wrapperName`).
-/
import ContractDrift.Json.Display

namespace ContractDrift.Wsdl

/-- One field of a message; `children` is there when its type is declared in place. -/
inductive Field where
  | mk (name type : String) (required : Bool) (children : Option (List Field))
  deriving Inhabited

namespace Field

/-- The name of the element. -/
def name : Field → String
  | .mk n _ _ _ => n

/-- The declared type. -/
def type : Field → String
  | .mk _ t _ _ => t

/-- Whether a message must have the field. -/
def required : Field → Bool
  | .mk _ _ r _ => r

/-- The fields inside, if the type is declared in place. -/
def children : Field → Option (List Field)
  | .mk _ _ _ c => c

end Field

/-- Which of an operation's two messages is meant. -/
inductive Direction where
  | input
  | output
  deriving Repr, DecidableEq, Inhabited

/-- A value that names no direction. -/
structure DirectionError where
  given : Json.Value

/-- The wording of the refusal. -/
def DirectionError.message (e : DirectionError) : String :=
  s!"Invalid direction: {Json.display e.given}. Must be 'input' or 'output'"

/-- The direction that a value names. -/
def Direction.ofValue : Json.Value → Except DirectionError Direction
  | .text "input" => .ok .input
  | .text "output" => .ok .output
  | v => .error ⟨v⟩

/-- The ending by which a message's wrapper shows its direction. -/
def Direction.ending : Direction → String
  | .input => "Request"
  | .output => "Response"

/-- The name of the element that wraps an operation's message. -/
def wrapperName (operation : String) (d : Direction) : String := operation ++ d.ending

/-- An operation of a service. -/
structure Operation where
  name : String
  action : String
  input : List Field
  output : List Field
  deriving Inhabited

/-- The fields of the message in one direction. -/
def Operation.fieldsFor (o : Operation) : Direction → List Field
  | .input => o.input
  | .output => o.output

end ContractDrift.Wsdl
