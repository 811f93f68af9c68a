/-
Checks: which contract to watch, and how strictly.
-/
import ContractDrift.Record.Field

namespace ContractDrift.Drift

open ContractDrift.Json (Value)
open ContractDrift.Record (Checked)

/-- The kind of a contract: a service description or a message schema. -/
inductive Family where
  | wsdl
  | message
  deriving Repr, DecidableEq, Inhabited

/-- What an endpoint that cannot be reached means. -/
inductive Unreachable where
  | drift
  | advisory
  deriving Repr, DecidableEq, Inhabited

/-- Which differences are drift: all, or only what is missing. -/
inductive Policy where
  | symmetric
  | breaking
  deriving Repr, DecidableEq, Inhabited

/-- The families by name. -/
def families : List (String × Family) := [("wsdl", .wsdl), ("message", .message)]

/-- The meanings of an endpoint that cannot be reached, by name. -/
def unreachables : List (String × Unreachable) := [("drift", .drift), ("advisory", .advisory)]

/-- The policies by name. -/
def policies : List (String × Policy) := [("symmetric", .symmetric), ("breaking", .breaking)]

/-- The name of a family. -/
def Family.name : Family → String
  | wsdl => "wsdl"
  | message => "message"

/-- The name of a meaning. -/
def Unreachable.name : Unreachable → String
  | drift => "drift"
  | advisory => "advisory"

/-- The name of a policy. -/
def Policy.name : Policy → String
  | symmetric => "symmetric"
  | breaking => "breaking"

/-- A contract to watch. -/
structure Check where
  name : String
  family : Family
  baselinePath : String
  liveUrl : Option String
  onUnreachable : Option Unreachable
  policy : Policy
  deriving Repr, DecidableEq, Inhabited

namespace Check

/-- What an endpoint that cannot be reached means to a check: drift to a service
description and advice to a message schema, unless the check says otherwise. -/
def unreachable (c : Check) : Unreachable :=
  c.onUnreachable.getD (match c.family with
    | .wsdl => .drift
    | .message => .advisory)

/-- The address to fetch, if there is one. -/
def address? (c : Check) : Option String := c.liveUrl.filter (· ≠ "")

/-- Reads a check from the fields of a JSON object. -/
def ofJson (v : Value) : Checked Check := do
  let m := v.members?.getD []
  let ((name, family, path), url, unreachable, policy) ← Record.both
    (Record.both (Record.required m "name" Record.text)
      (Record.both (Record.required m "family" (Record.word · families ·))
        (Record.required m "baseline_path" Record.text)))
    (Record.both (Record.optional m "live_url" Record.text? none)
      (Record.both (Record.optional m "on_unreachable" (Record.word? · unreachables ·) none)
        (Record.optional m "policy" (Record.word · policies ·) .symmetric)))
  return ⟨name, family, path, url, unreachable, policy⟩

/-- A check as a JSON object. -/
def toJson (c : Check) : Value :=
  let textOr (s : Option String) : Value := (s.map Value.text).getD .null
  .object
    [("name", .text c.name), ("family", .text c.family.name),
     ("baseline_path", .text c.baselinePath), ("live_url", textOr c.liveUrl),
     ("on_unreachable", textOr (c.onUnreachable.map (·.name))), ("policy", .text c.policy.name)]

end Check

end ContractDrift.Drift
