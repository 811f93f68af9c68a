/-
Why a pattern is refused.
-/
import ContractDrift.Text.Position
import ContractDrift.Text.Quoted

namespace ContractDrift.Pattern

/-- A cause for which a pattern is refused. -/
inductive Fault where
  /-- A backslash ends the pattern. -/
  | unfinishedEscape
  | badEscape (written : String)
  | incompleteEscape (written : String)
  | octalTooLarge (written : String)
  | unknownCharacter (name : String)
  | missing (what : String)
  | openGroup
  | noSuchGroup (index : Nat)
  | groupOfLookBehind
  | unclosedSet
  | badRange (low high : String)
  | nothingToRepeat
  | repeatedRepetition
  | leastAboveGreatest
  | unexpectedEnd
  | unknownExtension (written : String)
  | unknownGroup (name : String)
  | badGroupName (name : String)
  | badGroupNumber
  | groupNameTaken (name : String) (index former : Nat)
  | thirdBranch
  | lateModes
  | unknownMode
  | badModes (why : String)
  | unbalanced
  | unfixedLookBehind
  | countTooLarge
  | modesDisagree
  deriving Repr, DecidableEq, Inhabited

/-- The wording of a cause. -/
def Fault.wording : Fault → String
  | .unfinishedEscape => "bad escape (end of pattern)"
  | .badEscape written => "bad escape " ++ written
  | .incompleteEscape written => "incomplete escape " ++ written
  | .octalTooLarge written => "octal escape value " ++ written ++ " outside of range 0-0o377"
  | .unknownCharacter name => "undefined character name " ++ Text.quoted name
  | .missing what => "missing " ++ what
  | .openGroup => "cannot refer to an open group"
  | .noSuchGroup index => s!"invalid group reference {index}"
  | .groupOfLookBehind => "cannot refer to group defined in the same lookbehind subpattern"
  | .unclosedSet => "unterminated character set"
  | .badRange low high => "bad character range " ++ low ++ "-" ++ high
  | .nothingToRepeat => "nothing to repeat"
  | .repeatedRepetition => "multiple repeat"
  | .leastAboveGreatest => "min repeat greater than max repeat"
  | .unexpectedEnd => "unexpected end of pattern"
  | .unknownExtension written => "unknown extension ?" ++ written
  | .unknownGroup name => "unknown group name " ++ Text.quoted name
  | .badGroupName name => "bad character in group name " ++ Text.quoted name
  | .badGroupNumber => "bad group number"
  | .groupNameTaken name index former =>
    "redefinition of group name " ++ Text.quoted name ++ s!" as group {index}; was group {former}"
  | .thirdBranch => "conditional backref with more than two branches"
  | .lateModes => "global flags not at the start of the expression"
  | .unknownMode => "unknown flag"
  | .badModes why => "bad inline flags: " ++ why
  | .unbalanced => "unbalanced parenthesis"
  | .unfixedLookBehind => "look-behind requires fixed-width pattern"
  | .countTooLarge => "the repetition number is too large"
  | .modesDisagree => "ASCII and UNICODE flags are incompatible"

/-- Whether a cause is a fault in the writing, unlike a demand that no search can meet. -/
def Fault.isWriting : Fault → Bool
  | .countTooLarge => false
  | .modesDisagree => false
  | _ => true

/-- Why and where a pattern is refused. -/
structure ReadError where
  fault : Fault
  /-- The place of the fault, if it has one. -/
  place : Option Text.Position
  /-- Whether the pattern has more than one line. -/
  severalLines : Bool
  deriving Repr, DecidableEq, Inhabited

/-- The text that says why a pattern is refused. -/
def ReadError.message (e : ReadError) : String :=
  match e.place with
  | none => e.fault.wording
  | some p =>
    let text := e.fault.wording ++ s!" at position {p.offset}"
    if e.severalLines then text ++ s!" (line {p.line}, column {p.column})" else text

end ContractDrift.Pattern
