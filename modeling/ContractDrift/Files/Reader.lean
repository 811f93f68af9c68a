/-
Reading files below a root.

A `Reader` gives access to one directory of a tree and to what lies inside it.  A path
is resolved against the root, and one that leads outside is refused (`escapes`); the
check compares the texts of the two paths, a slash after the root included.
-/
import ContractDrift.Files.Glob

namespace ContractDrift.Files

open ContractDrift.Text (Octets)

/-- Why a file cannot be reached. -/
inductive ReadError where
  /-- The path leads outside the root. -/
  | escapes (written : String) (root : Path)
  /-- The path holds a NUL character. -/
  | embeddedNull
  | notFound (path : Path)
  | directoryNotFound (path : Path)
  /-- The path, or a component of it, has more octets than it may have. -/
  | nameTooLong (path : Path)
  | pattern (e : PatternError)
  deriving Repr, DecidableEq, Inhabited

/-- The wording of a failure. -/
def ReadError.message : ReadError → String
  | .escapes written root => s!"Path traversal detected: {written} escapes {root.text}"
  | .embeddedNull => "embedded null byte"
  | .notFound p => "Local resource not found: " ++ p.text
  | .directoryNotFound p => "Directory not found: " ++ p.text
  | .nameTooLong p => "[Errno 36] File name too long: " ++ Text.quoted p.text
  | .pattern e => e.message

/-- Whether something is not there that should be. -/
def ReadError.isAbsence : ReadError → Bool
  | .notFound _ => true
  | .directoryNotFound _ => true
  | _ => false

/-- Access to a directory of a tree. -/
structure Reader where
  tree : Tree
  root : Path
  deriving Inhabited

namespace Reader

private def hasNull (s : String) : Bool := s.toList.contains '\x00'

/-- Access to the directory that is written at a place; the empty text means the place
itself. -/
def open? (tree : Tree) (place : Path) (root : String) : Except ReadError Reader :=
  if hasNull root then .error .embeddedNull
  else .ok ⟨tree, Files.resolve place root⟩

/-- Whether the text of a path starts with that of the root and a slash. -/
def isBelow (r : Reader) (p : Path) : Bool :=
  Text.startsWith (r.root.text ++ "/").toList p.text.toList

/-- The path that is written, if it stays inside the root. -/
def resolve (r : Reader) (written : String) : Except ReadError Path :=
  if hasNull written then .error .embeddedNull
  else
    let p := Files.resolve r.root written
    if p = r.root ∨ r.isBelow p then .ok p else .error (.escapes written r.root)

/-- Whether a file stands at a path that stays inside the root. -/
def isFileAt (r : Reader) (p : Path) : Except ReadError Bool :=
  if r.tree.isTooLong p then .error (.nameTooLong p) else .ok (r.tree.isFile p)

/-- The content of a file. -/
def read (r : Reader) (written : String) : Except ReadError Octets := do
  let p ← r.resolve written
  let _ ← r.isFileAt p
  match r.tree.file? p with
  | some content => pure content
  | none => .error (.notFound p)

/-- Whether a file can be read. -/
def exists? (r : Reader) (written : String) : Except ReadError Bool :=
  match r.resolve written with
  | .error (.escapes _ _) => .ok false
  | .error .embeddedNull => .ok false
  | .error e => .error e
  | .ok p => r.isFileAt p

/-- The files among what a search comes to. -/
def filesAmong (r : Reader) : List Hit → Except ReadError (List Path)
  | [] => .ok []
  | .tooLong p :: _ => .error (.nameTooLong p)
  | .found p :: hits =>
    if r.tree.isOverlong p then .error (.nameTooLong p)
    else do
      let files ← r.filesAmong hits
      pure (if r.tree.isFile (normalize p) then p :: files else files)

/-- The files that a pattern leads to from a directory, in the order of their paths. -/
def list (r : Reader) (directory pattern : String) : Except ReadError (List Path) := do
  let p ← r.resolve directory
  if r.tree.isTooLong p then .error (.nameTooLong p)
  else if !r.tree.isDirectory p then .error (.directoryNotFound p)
  else
    match select r.tree pattern p with
    | .error e => .error (.pattern e)
    | .ok hits => do
      let files ← r.filesAmong hits
      pure (files.mergeSort Path.le)

end Reader

end ContractDrift.Files
