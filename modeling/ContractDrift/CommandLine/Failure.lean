/-
Why a command comes to no answer.
-/
import ContractDrift.Drift.Detector
import ContractDrift.Files.Writing
import ContractDrift.Soap.Envelope

namespace ContractDrift.CommandLine

/-- Why a command comes to no answer. -/
inductive Failure where
  | file (e : Files.ReadError)
  | path (e : Files.PathError)
  /-- The stored description cannot be read. -/
  | description (e : Xml.DocumentError)
  | schema (e : Schema.LoadError)
  | query (e : Schema.QueryError)
  /-- The payload or the file of settings is no text. -/
  | undecodable (e : Text.DecodeError)
  /-- The payload has a number with too many digits. -/
  | payload (e : Json.ReadError)
  /-- The envelope is in a character set that cannot be read. -/
  | envelope (e : Xml.ReadError)
  | skeleton (e : Xml.WriteError)
  | drift (e : Drift.Failure)
  deriving Inhabited

namespace Failure

/-- The wording of a failure. -/
def message : Failure → String
  | file e => e.message
  | path e => e.message
  | description e => e.message
  | schema e => e.message
  | query e => e.message
  | undecodable e => e.message
  | payload e => e.message
  | envelope e => e.message
  | skeleton e => e.message
  | drift e => e.message

/-- Whether a file is refused by the system or is not there. -/
def ofFileSystem : Files.ReadError → Bool
  | .nameTooLong _ => true
  | e => e.isAbsence

/-- Whether a command reports a failure and comes to an end; any other breaks it off. -/
def isReported : Failure → Bool
  | file e => ofFileSystem e
  | path .embeddedNull => false
  | path _ => true
  | description e => e.isOfContent
  | schema (.unreadable e) => ofFileSystem e
  | schema e => e.isOfContent
  | query (.notLoaded _ _) => true
  | query (.stopped _) => false
  | drift (.file e) => ofFileSystem e
  | drift e => e.isOfContract
  | _ => false

end Failure

end ContractDrift.CommandLine
