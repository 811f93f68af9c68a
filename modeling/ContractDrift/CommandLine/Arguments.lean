/-
Reading arguments as a command.

`Invocation.parse` reads the arguments of a run: the options for all commands, the name
of a command, and what this command takes.
-/
import ContractDrift.CommandLine.Grammar
import ContractDrift.Log.Note
import ContractDrift.Text.LetterCase
import ContractDrift.Wsdl.Operation

namespace ContractDrift.CommandLine

open ContractDrift.Wsdl (Direction)

/-- What a run is asked to do. -/
inductive Command where
  /-- Compare the baselines with the live contracts. -/
  | driftCheck (reportDirectory wsdlUrl messageSchemaUrl : Option String)
  /-- Check the envelope in a file against an operation. -/
  | validateSoap (envelope operation : String) (direction : Direction) (strict : Bool)
  /-- Check the document in a file against a schema. -/
  | validateMessage (schema payload : String)
  /-- List the operations of the stored description. -/
  | listOperations
  /-- Print an envelope for an operation. -/
  | skeleton (operation : String) (direction : Direction)
  deriving Repr, DecidableEq, Inhabited

/-- The name of a command. -/
def Command.name : Command → String
  | driftCheck _ _ _ => "drift-check"
  | validateSoap _ _ _ _ => "validate-soap"
  | validateMessage _ _ => "validate-message"
  | listOperations => "list-operations"
  | skeleton _ _ => "skeleton"

/-- A command with the level of the log, if one is asked for. -/
structure Invocation where
  logLevel : Option Log.Level
  command : Command
  deriving Repr, DecidableEq, Inhabited

/-! ## Grammars -/

/-- The option for the level of the log. -/
def logLevelRule : OptionRule :=
  ⟨"--log-level", some fun value => (Log.levels.lookup (Text.upper value)).isSome⟩

/-- The directions by name. -/
def directions : List (String × Direction) := [("input", .input), ("output", .output)]

/-- The option for a direction. -/
def directionRule : OptionRule := .choice "--direction" (directions.map (·.1))

/-- What comes in front of the name of a command. -/
def outerGrammar : Grammar := ⟨[logLevelRule], 0⟩

/-- The grammar of a command by its name. -/
def grammars : List (String × Grammar) :=
  [("drift-check",
      ⟨[.any "--report-dir", .any "--wsdl-url", .any "--message-schema-url"], 0⟩),
   ("validate-soap", ⟨[.any "--operation", directionRule, .flag "--strict"], 1⟩),
   ("validate-message", ⟨[], 2⟩),
   ("list-operations", ⟨[], 0⟩),
   ("skeleton", ⟨[directionRule], 1⟩)]

/-! ## Commands -/

/-- The direction that is asked for. -/
def directionOf (c : Collected) : Direction :=
  ((c.value? "--direction").bind (directions.lookup ·)).getD .input

/-- The command of a name with what has been collected for it. -/
def Command.ofCollected? (name : String) (c : Collected) : Option Command :=
  match name, c.positionals with
  | "drift-check", [] =>
    some (.driftCheck (c.value? "--report-dir") (c.value? "--wsdl-url")
      (c.value? "--message-schema-url"))
  | "validate-soap", [envelope] =>
    (c.value? "--operation").map fun operation =>
      .validateSoap envelope operation (directionOf c) (c.has "--strict")
  | "validate-message", [schema, payload] => some (.validateMessage schema payload)
  | "list-operations", [] => some .listOperations
  | "skeleton", [operation] => some (.skeleton operation (directionOf c))
  | _, _ => none

/-- Reads what follows the name of a command. -/
def Command.parse (name : String) (arguments : List String) : Except Refusal Command :=
  match grammars.lookup name with
  | none => .error .misuse
  | some g => do
    let c ← g.consume (some name) false .nothing (← g.tokens arguments)
    match Command.ofCollected? name c, c.surplus with
    | some command, false => return command
    | _, _ => throw .misuse

/-- Goes through the arguments in front of the name of a command and reads the command;
each token stands beside its argument. -/
def parseOuter (c : Collected) : List Token → List String → Except Refusal (Collected × Command)
  | .positional name :: _, _ :: arguments => do
    return (c, ← Command.parse name arguments)
  | .help :: _, _ => .error (.help none)
  | .unknown :: tokens, _ :: arguments => parseOuter { c with surplus := true } tokens arguments
  | .option rule (some value) :: tokens, _ :: arguments => do
    parseOuter (← c.take rule value) tokens arguments
  | .option rule none :: .positional value :: tokens, _ :: _ :: arguments => do
    parseOuter (← c.take rule value) tokens arguments
  | _, _ => .error .misuse

/-- Reads the arguments of a run. -/
def Invocation.parse (arguments : List String) : Except Refusal Invocation := do
  let (c, command) ← parseOuter .nothing (← outerGrammar.tokens arguments) arguments
  if c.surplus then throw .misuse
  let level := (c.value? "--log-level").bind fun value => Log.levels.lookup (Text.upper value)
  return ⟨level, command⟩

end ContractDrift.CommandLine
