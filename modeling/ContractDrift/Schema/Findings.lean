/-
What an evaluation finds.

`Findings` are violations in the order in which they are found, and the cause for
which the evaluation stopped before its end, if it did.  A test asks whether there is
any violation: it looks no further than the first, so what comes after it, a stop
included, does not count.
-/
import ContractDrift.Schema.Lookup
import ContractDrift.Pattern.Fault
import ContractDrift.Json.Layout

namespace ContractDrift.Schema

open ContractDrift.Json (Value display layout)

/-- A step to a part of a document. -/
inductive Step where
  | key (k : String)
  | index (i : Nat)
  deriving Repr, DecidableEq, Inhabited

/-- The text of a step. -/
def Step.text : Step → String
  | key k => k
  | index i => toString i

/-- A way in which a document violates a schema. -/
structure Violation where
  path : List Step
  message : String
  /-- The keyword that is violated; there is none when a schema allows nothing at all. -/
  keyword : Option String
  deriving Repr, DecidableEq, Inhabited

/-- The place of a violation. -/
def Violation.place (v : Violation) : String := String.join (v.path.map fun s => "/" ++ s.text)

/-- Why an evaluation stops before its end. -/
inductive Stop where
  /-- A reference leads nowhere, where its schema is applied. -/
  | reference (fault : LookupFault)
  /-- A reference leads nowhere, where it is asked what its schema evaluates. -/
  | bareReference (fault : LookupFault)
  | unknownType (type schema document : Value)
  | pattern (error : Pattern.ReadError)
  /-- A quotient is not a number. -/
  | quotientUndefined
  /-- The remainder of an infinite number is asked for. -/
  | infiniteDividend
  | integerTooLarge
  | zeroDivisor
  | noLength (kind : String)
  | tooDeep
  deriving Inhabited

namespace Stop

/-- The lines of a text indented by four blanks. -/
def indented (s : String) : String :=
  "    " ++ "\n    ".intercalate ((Text.splitAll '\n' s.toList).map String.ofList)

/-- The text that says why an evaluation stops. -/
def message : Stop → String
  | reference fault =>
    if fault.isOfReference then fault.title ++ ": " ++ fault.wording else fault.wording
  | bareReference fault => fault.wording
  | unknownType type schema document =>
    "Unknown type " ++ display type ++ " for validator with schema:\n" ++
      indented (layout 72 schema) ++ "\n\nWhile checking instance:\n" ++
      indented (layout 72 document)
  | pattern error => error.message
  | quotientUndefined => "cannot convert float NaN to integer"
  | infiniteDividend => "cannot convert Infinity to integer ratio"
  | integerTooLarge => "int too large to convert to float"
  | zeroDivisor => "integer modulo by zero"
  | noLength kind => "object of type '" ++ kind ++ "' has no len()"
  | tooDeep => "maximum recursion depth exceeded"

end Stop

/-- What an evaluation finds. -/
structure Findings where
  violations : List Violation
  stop : Option Stop
  deriving Inhabited

namespace Findings

/-- Nothing. -/
def none : Findings := ⟨[], Option.none⟩

/-- One violation of a keyword. -/
def one (keyword message : String) : Findings := ⟨[⟨[], message, some keyword⟩], Option.none⟩

/-- A stop. -/
def stopped (s : Stop) : Findings := ⟨[], some s⟩

/-- One violation of a keyword unless a condition holds. -/
def expect (holds : Bool) (keyword message : String) : Findings :=
  if holds then none else one keyword message

/-- What is found for each member of a list; nothing is looked at after a stop. -/
def each {α : Type} : List α → (α → Findings) → Findings
  | [], _ => none
  | x :: r, f =>
    let here := f x
    match here.stop with
    | some _ => here
    | Option.none =>
      let rest := each r f
      ⟨here.violations ++ rest.violations, rest.stop⟩

/-- What is found after a step that can stop. -/
def after {α : Type} (x : Except Stop α) (f : α → Findings) : Findings :=
  match x with
  | .ok a => f a
  | .error s => stopped s

/-- The findings with every violation one step further down. -/
def under (step : Step) (f : Findings) : Findings :=
  ⟨f.violations.map fun v => { v with path := step :: v.path }, f.stop⟩

/-- Whether there is no violation. -/
def isClean (f : Findings) : Except Stop Bool :=
  match f.violations, f.stop with
  | _ :: _, _ => .ok false
  | [], Option.none => .ok true
  | [], some s => .error s

/-- All violations. -/
def all (f : Findings) : Except Stop (List Violation) :=
  match f.stop with
  | Option.none => .ok f.violations
  | some s => .error s

end Findings

end ContractDrift.Schema
