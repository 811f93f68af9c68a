/-
The grammar of arguments.

A `Grammar` lists the options and positional arguments of one command.  `tokens` says of
each argument what it is, and `consume` goes through the tokens and collects what they
give.

Design notes: an argument is an option if it starts with a dash, but a dash alone, a
negative number or a text with a space in it is positional unless it names an option.  A
long option may be cut short to any beginning that no other option has.  After two dashes
all arguments are positional; the dashes themselves go with a positional argument beside
them.
-/
import ContractDrift.Text.Alphanumeric
import ContractDrift.Text.Search

namespace ContractDrift.CommandLine

/-- An option of a command. -/
structure OptionRule where
  name : String
  /-- Which values may follow; nothing when no value follows. -/
  values : Option (String → Bool)

/-- An option with any value. -/
def OptionRule.any (name : String) : OptionRule := ⟨name, some fun _ => true⟩

/-- An option with one of some values. -/
def OptionRule.choice (name : String) (choices : List String) : OptionRule :=
  ⟨name, some choices.contains⟩

/-- An option without a value. -/
def OptionRule.flag (name : String) : OptionRule := ⟨name, none⟩

/-- What a command takes: its options and the number of its positional arguments. -/
structure Grammar where
  options : List OptionRule
  positionals : Nat

/-- Why arguments are not read as a command. -/
inductive Refusal where
  /-- They do not fit the grammar. -/
  | misuse
  /-- They ask for help: on a command, or on all of them. -/
  | help (command : Option String)
  deriving Repr, DecidableEq, Inhabited

/-! ## Tokens -/

/-- What an argument is. -/
inductive Token where
  | positional (text : String)
  /-- Two dashes. -/
  | separator
  /-- An option, with the value that follows its name after an equals sign. -/
  | option (rule : OptionRule) (value : Option String)
  | help
  /-- An option for help with a value that it does not take. -/
  | misusedHelp
  | unknown

/-- Whether an argument is a negative number. -/
def isNegativeNumber (cs : List Char) : Bool :=
  match cs with
  | '-' :: r =>
    let r := if r.getLast? = some '\n' then r.dropLast else r
    let rest := r.dropWhile Text.isDecimalDigit
    match rest with
    | [] => !r.isEmpty
    | '.' :: fraction => !fraction.isEmpty && fraction.all Text.isDecimalDigit
    | _ => false
  | _ => false

/-- The name of the option for help. -/
def helpName : String := "--help"

/-- The token of an argument that names the options with the given names, of which there
has to be one. -/
def Grammar.named (g : Grammar) (names : List String) (value : Option String) :
    Except Refusal (Option Token) :=
  match names with
  | [] => .ok none
  | [name] =>
    if name = helpName then .ok (some (if value.isSome then .misusedHelp else .help))
    else .ok ((g.options.find? (·.name == name)).map fun rule => .option rule value)
  | _ => .error .misuse

/-- The names of the long options of a command. -/
def Grammar.names (g : Grammar) : List String := helpName :: g.options.map (·.name)

/-- The token of an argument that starts with two dashes. -/
def Grammar.longOption? (g : Grammar) (cs : List Char) : Except Refusal (Option Token) :=
  let (name, value) := match Text.splitFirst '=' cs with
    | some (name, value) => (name, some (String.ofList value))
    | none => (cs, none)
  let whole := String.ofList name
  if g.names.contains whole then g.named [whole] value
  else g.named (g.names.filter fun n => Text.startsWith name n.toList) value

/-- The token of an argument that starts with one dash and the letter for help; the letter
may be repeated. -/
def shortHelp (rest : List Char) : Token :=
  match rest.dropWhile (· == 'h') with
  | '-' :: _ => .misusedHelp
  | '=' :: _ => .misusedHelp
  | _ => .help

/-- The token of an argument that starts with a dash and names no option. -/
def strayDash (cs : List Char) : Token :=
  if isNegativeNumber cs || cs.contains ' ' then .positional (String.ofList cs) else .unknown

/-- The token of an argument. -/
def Grammar.classify (g : Grammar) (argument : String) : Except Refusal Token :=
  match argument.toList with
  | '-' :: '-' :: r => do
    return (← g.longOption? ('-' :: '-' :: r)).getD (strayDash ('-' :: '-' :: r))
  | '-' :: 'h' :: r => .ok (shortHelp r)
  | '-' :: c :: r => .ok (strayDash ('-' :: c :: r))
  | _ => .ok (.positional argument)

/-- The tokens of some arguments. -/
def Grammar.tokens (g : Grammar) : List String → Except Refusal (List Token)
  | [] => .ok []
  | a :: r =>
    if a = "--" then .ok (.separator :: r.map .positional)
    else do
      let token ← g.classify a
      return token :: (← g.tokens r)

/-! ## Collecting -/

/-- What has been collected. -/
structure Collected where
  /-- The values of options, the last first. -/
  values : List (String × String)
  flags : List String
  positionals : List String
  /-- Whether there has been anything that the grammar has no place for. -/
  surplus : Bool
  deriving Repr, DecidableEq, Inhabited

namespace Collected

/-- Nothing yet. -/
def nothing : Collected := ⟨[], [], [], false⟩

/-- The value of an option; of several the last counts. -/
def value? (c : Collected) (name : String) : Option String := c.values.lookup name

/-- Whether an option without a value is there. -/
def has (c : Collected) (name : String) : Bool := c.flags.contains name

end Collected

/-- Takes in an option with its value. -/
def Collected.take (c : Collected) (rule : OptionRule) (value : String) :
    Except Refusal Collected :=
  match rule.values with
  | some allows =>
    if allows value then .ok { c with values := (rule.name, value) :: c.values }
    else .error .misuse
  | none => .error .misuse

/-- Collects what the tokens of a command give.  `beside` says whether the token before
was a positional argument of the command. -/
def Grammar.consume (g : Grammar) (command : Option String) : (beside : Bool) → Collected →
    List Token → Except Refusal Collected
  | _, c, [] => .ok c
  | beside, c, token :: rest =>
    match token with
    | .help => .error (.help command)
    | .misusedHelp => .error .misuse
    | .unknown => g.consume command false { c with surplus := true } rest
    | .positional text =>
      if c.positionals.length < g.positionals then
        g.consume command true { c with positionals := c.positionals ++ [text] } rest
      else g.consume command false { c with surplus := true } rest
    | .separator =>
      let goes := beside || (c.positionals.length < g.positionals && !rest.isEmpty)
      g.consume command beside { c with surplus := c.surplus || !goes } rest
    | .option rule (some value) => do g.consume command false (← c.take rule value) rest
    | .option rule none =>
      if rule.values.isNone then
        g.consume command false { c with flags := rule.name :: c.flags } rest
      else
        match rest with
        | .positional value :: rest => do g.consume command false (← c.take rule value) rest
        | _ => .error .misuse

/-! ## Laws -/

/-- An argument without a dash in front is positional in every grammar. -/
theorem Grammar.classify_of_head_ne (g : Grammar) (argument : String)
    (h : argument.toList.head? ≠ some '-') :
    g.classify argument = .ok (.positional argument) := by
  unfold classify
  split <;> simp_all

end ContractDrift.CommandLine
