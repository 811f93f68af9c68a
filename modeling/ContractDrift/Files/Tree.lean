/-
Trees of files.

A `Tree` holds files and directories by their absolute paths; the directories that
lead to an entry are there with it.  There are no links, so a path names at most one
thing.
-/
import ContractDrift.Files.Path
import ContractDrift.Text.Encoding

namespace ContractDrift.Files

open ContractDrift.Text (Octets)

/-- What stands at a path of a tree. -/
inductive Entry where
  | file (content : Octets)
  | directory
  deriving Repr, DecidableEq, Inhabited

/-- The entries of a tree by their absolute paths. -/
structure Tree where
  entries : List (Path × Entry)
  deriving Repr, Inhabited

namespace Tree

/-- A tree of directories only: those that lead to a place. -/
def ofDirectory (place : Path) : Tree := ⟨[(place, .directory)]⟩

/-- What stands at a path. -/
def entry? (t : Tree) (p : Path) : Option Entry :=
  match t.entries.lookup p with
  | some e => some e
  | none =>
    if p.isEmpty || t.entries.any (fun e => p.isPrefixOf e.1) then some .directory else none

/-- The content of the file at a path. -/
def file? (t : Tree) (p : Path) : Option Octets :=
  match t.entry? p with
  | some (.file content) => some content
  | _ => none

/-- Whether a file stands at a path. -/
def isFile (t : Tree) (p : Path) : Bool := (t.file? p).isSome

/-- Whether a directory stands at a path. -/
def isDirectory (t : Tree) (p : Path) : Bool := t.entry? p == some .directory

/-- Adds an entry, in place of the one that stood there. -/
def insert (t : Tree) (p : Path) (e : Entry) : Tree :=
  ⟨t.entries.filter (·.1 != p) ++ [(p, e)]⟩

/-- The names inside a directory, each once. -/
def names (t : Tree) (p : Path) : List String :=
  t.entries.foldl (fun acc e =>
    match e.1.drop p.length with
    | name :: _ => if p.isPrefixOf e.1 && !acc.contains name then acc ++ [name] else acc
    | [] => acc) []

/-- The content that was put at a path is what stands there. -/
theorem file?_insert_self (t : Tree) (p : Path) (content : Octets) :
    (t.insert p (.file content)).file? p = some content := by
  have hnone : (t.entries.filter (·.1 != p)).lookup p = none := by
    induction t.entries with
    | nil => rfl
    | cons e r ih =>
      rw [List.filter_cons]
      split
      · rename_i h
        obtain ⟨q, v⟩ := e
        have hq : (p == q) = false := by
          have : q ≠ p := by simpa using h
          simpa using fun e => this e.symm
        simp [List.lookup_cons, hq, ih]
      · exact ih
  simp [file?, entry?, insert, List.lookup_append, hnone]

end Tree

/-- The most octets that one component of a path may have. -/
def componentLimit : Nat := 255

/-- The least number of octets that a path may not have. -/
def pathLimit : Nat := 4096

/-- Whether a component has more octets than one may have. -/
def isLongComponent (c : String) : Bool := decide (componentLimit < (Text.utf8 c).length)

/-- Whether the text of a path has too many octets for one. -/
def isLongPath (written : String) : Bool := decide (pathLimit ≤ (Text.utf8 written).length)

/-- Whether a path cannot be looked up because it is too long, or because a component is
that is looked up in a directory that is there. -/
def Tree.isTooLong (t : Tree) (p : Path) : Bool :=
  isLongPath p.text ||
  (List.range p.length).any fun i => t.isDirectory (p.take i) && p[i]?.any isLongComponent

/-- Whether a path with steps back in it cannot be looked up because it is too long, as it is
written or where it leads. -/
def Tree.isOverlong (t : Tree) (p : Path) : Bool :=
  isLongPath p.text || t.isTooLong (normalize p)

end ContractDrift.Files
