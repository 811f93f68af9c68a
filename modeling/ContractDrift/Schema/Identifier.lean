/-
Names of schemas from names of files.
-/
import ContractDrift.Text.Search

namespace ContractDrift.Schema

/-- The endings that a schema's file name may have, the longer one first. -/
def fileEndings : List (List Char) := [".schema.json".toList, ".json".toList]

/-- The text without an ending, if it has it. -/
def withoutEnding? (ending name : List Char) : Option (List Char) :=
  if Text.endsWith ending name then some (name.take (name.length - ending.length)) else none

/-- The identifier that a schema takes from its file's name: the name without the first
of the endings that it has. -/
def identifierOfFile (filename : String) : String :=
  let cs := filename.toList
  match fileEndings.findSome? (withoutEnding? · cs) with
  | some stem => String.ofList stem
  | none => filename

end ContractDrift.Schema
