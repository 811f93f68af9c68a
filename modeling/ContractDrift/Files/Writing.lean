/-
Making directories and writing files.

A directory is made with all the directories that lead to it; one that is there already
is left as it is.
-/
import ContractDrift.Files.Tree
import ContractDrift.Text.Quoted

namespace ContractDrift.Files

open ContractDrift.Text (Octets)

/-- Why a file or directory cannot be used as asked; the path is as it was written. -/
inductive PathError where
  | notFound (written : String)
  | fileExists (written : String)
  | notADirectory (written : String)
  | isADirectory (written : String)
  | nameTooLong (written : String)
  | embeddedNull
  deriving Repr, DecidableEq, Inhabited

/-- The wording of a failure. -/
def PathError.message : PathError → String
  | .notFound p => "[Errno 2] No such file or directory: " ++ Text.quoted p
  | .fileExists p => "[Errno 17] File exists: " ++ Text.quoted p
  | .notADirectory p => "[Errno 20] Not a directory: " ++ Text.quoted p
  | .isADirectory p => "[Errno 21] Is a directory: " ++ Text.quoted p
  | .nameTooLong p => "[Errno 36] File name too long: " ++ Text.quoted p
  | .embeddedNull => "embedded null byte"

/-- Why a walk through a tree comes to an end. -/
inductive Obstacle where
  /-- There is nothing at a path that is walked through. -/
  | missing
  /-- There is a file at a path that is walked through. -/
  | file
  /-- A component has too many octets. -/
  | longComponent
  deriving Repr, DecidableEq, Inhabited

/-- The failure that a walk along a written path ends with. -/
def Obstacle.error (written : String) : Obstacle → PathError
  | missing => .notFound written
  | file => .notADirectory written
  | longComponent => .nameTooLong written

namespace Tree

/-- Where some components lead from a path; what is walked through has to be there. -/
def walk (t : Tree) : Path → List String → Except Obstacle Path
  | p, [] => .ok p
  | p, c :: r =>
    if t.isFile p then .error .file
    else if !t.isDirectory p then .error .missing
    else if isLongComponent c then .error .longComponent
    else t.walk (if c = ".." then p.dropLast else p ++ [c]) r

/-- Where some components lead from a path; what is not there is made a directory. -/
def walkMaking (t : Tree) : Path → List String → Except Obstacle Path
  | p, [] => .ok p
  | p, c :: r =>
    if t.isFile p then .error .file
    else if isLongComponent c then .error .longComponent
    else t.walkMaking (if c = ".." then p.dropLast else p ++ [c]) r

/-- The path that a written path starts from. -/
def start (place : Path) (written : String) : Path := if isAbsolute written then [] else place

/-- The tree with a directory at a path, and with those that lead to it. -/
def makeDirectory (t : Tree) (place : Path) (written : String) : Except PathError Tree :=
  if written.toList.contains '\x00' then .error .embeddedNull
  else if isLongPath written then .error (.nameTooLong written)
  else match t.walkMaking (start place written) (components written) with
    | .error o => .error (o.error written)
    | .ok p =>
      if t.isFile p then .error (.fileExists written)
      else if t.isDirectory p then .ok t
      else .ok (t.insert p .directory)

/-- Where a path leads that is written at a place; what it leads to need not be there. -/
def locate (t : Tree) (place : Path) (written : String) : Except PathError Path :=
  if written.toList.contains '\x00' then .error .embeddedNull
  else if isLongPath written then .error (.nameTooLong written)
  else (t.walk (start place written) (components written)).mapError (·.error written)

/-- The content of a file that is named at a place, wherever it is. -/
def open? (t : Tree) (place : Path) (written : String) : Except PathError Octets := do
  let p ← t.locate place written
  match t.file? p with
  | some content => .ok content
  | none => if t.isDirectory p then .error (.isADirectory written) else .error (.notFound written)

/-- The tree with a file at a path, in place of the one that stood there. -/
def writeFile (t : Tree) (place : Path) (written : String) (content : Octets) :
    Except PathError Tree := do
  let p ← t.locate place written
  if t.isDirectory p then .error (.isADirectory written) else .ok (t.insert p (.file content))

end Tree

end ContractDrift.Files
