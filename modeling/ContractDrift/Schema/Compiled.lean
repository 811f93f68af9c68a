/-
Schemas that have been checked and can be evaluated.

`check` evaluates a schema against the schema of its dialect and gives the first
violation, unless the dialect is named by no URI.  `Compiled.violations` evaluates a
document against a schema.
-/
import ContractDrift.Schema.Evaluation

namespace ContractDrift.Schema

open ContractDrift.Json (Value Members)

/-- The greatest number of schemas that can be applied one inside the other. -/
def nestingLimit : Nat := 490

/-- A bound on the depth of the recursion for that number: a schema that is applied takes
three levels. -/
def depthLimit : Nat := 3 * nestingLimit

/-- A schema in its dialect. -/
structure Compiled where
  document : Members
  dialect : Dialect
  deriving Inhabited

/-- The dialect of a schema document. -/
def dialectOf (document : Members) : Dialect := Dialect.draft7.ofSchema (.object document)

/-- What a document violates of a schema, with all its schemas known. -/
def evaluate (formats : List Format) (d : Dialect) (schema v : Value) : Findings :=
  let r : Resource := ⟨schema, d⟩
  let base := r.id?.getD ""
  let env : Setting := ⟨(Index.ofResource base r).append Index.standard, formats⟩
  run depthLimit env ⟨d, ⟨base, []⟩⟩ d schema v

/-- What a schema violates of the schema of its dialect; of the formats, only that of
patterns is checked. -/
def metaFindings (document : Members) : Findings :=
  let d := dialectOf document
  evaluate [.regex] d d.metaSchema (.object document)

/-- What is wrong with the URI by which a document names its dialect. -/
def dialectFault? (document : Members) : Option Uri.AuthorityFault :=
  ((document.get? "$schema").bind Value.text?).bind Uri.authorityFault?

/-- The first violation of the schema of its dialect, if there is any. -/
def check (document : Members) : Except Stop (Option Violation) :=
  match dialectFault? document with
  | some fault => .error (.reference (.notAUri fault))
  | none =>
    let f := metaFindings document
    match f.violations, f.stop with
    | v :: _, _ => .ok (some v)
    | [], none => .ok none
    | [], some s => .error s

namespace Compiled

/-- A schema document, without a check. -/
def ofDocument (document : Members) : Compiled := ⟨document, dialectOf document⟩

/-- What a document violates, in the order in which it is found. -/
def violations (c : Compiled) (v : Value) : Except Stop (List Violation) :=
  (evaluate (Format.named.map (·.2)) c.dialect (.object c.document) v).all

end Compiled

end ContractDrift.Schema
