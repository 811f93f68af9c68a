/-
Paths in a tree of files.

A written path is divided at its slashes; empty parts and single points say nothing.
An absolute path is the list of its components from the root of the tree on.
`resolve` reads a written path at a place and removes the steps back (`normalize`).
-/
import ContractDrift.Text.Search

namespace ContractDrift.Files

/-- The components of an absolute path, from the root of the tree on. -/
abbrev Path := List String

/-- The parts of a written path that say something. -/
def components (written : String) : List String :=
  ((Text.splitAll '/' written.toList).map String.ofList).filter fun p => p != "" && p != "."

/-- Whether a written path starts at the root of the tree. -/
def isAbsolute (written : String) : Bool := written.toList.head? == some '/'

/-- Removes steps back; at the root they lead nowhere. -/
def normalize (parts : List String) : Path :=
  (parts.foldl (fun acc p => if p = ".." then acc.drop 1 else p :: acc) []).reverse

/-- The path that is written at a place. -/
def resolve (place : Path) (written : String) : Path :=
  normalize (if isAbsolute written then components written else place ++ components written)

/-- The text of an absolute path. -/
def Path.text (p : Path) : String := "/" ++ "/".intercalate p

/-- A written path in its shortest spelling: without empty parts and single points. -/
def tidy (written : String) : String :=
  let body := "/".intercalate (components written)
  match written.toList with
  | '/' :: '/' :: '/' :: _ => "/" ++ body
  | '/' :: '/' :: _ => "//" ++ body
  | '/' :: _ => "/" ++ body
  | _ => if body = "" then "." else body

/-- One written path inside another: an absolute one stands for itself. -/
def join (outer inner : String) : String :=
  if isAbsolute inner then tidy inner
  else if components inner = [] then tidy outer
  else
    let o := tidy outer
    if o = "." then tidy inner
    else if Text.endsWith ['/'] o.toList then o ++ tidy inner
    else o ++ "/" ++ tidy inner

/-- The order of paths: that of their components, one after the other. -/
def Path.le : Path → Path → Bool
  | [], _ => true
  | _ :: _, [] => false
  | a :: as, b :: bs => if a = b then Path.le as bs else Text.le a b

/-- Whether `inner` is `outer` or lies inside it. -/
def Path.isWithin (inner outer : Path) : Bool := outer.isPrefixOf inner

/-- No step back is left in a normalized path. -/
theorem not_mem_normalize (parts : List String) : ".." ∉ normalize parts := by
  have key : ∀ (ps acc : List String), ".." ∉ acc →
      ".." ∉ ps.foldl (fun acc p => if p = ".." then acc.drop 1 else p :: acc) acc := by
    intro ps
    induction ps with
    | nil => intro acc h; simpa using h
    | cons p r ih =>
      intro acc h
      rw [List.foldl_cons]
      apply ih
      by_cases hp : p = ".."
      · rw [if_pos hp]
        exact fun hmem => h (List.mem_of_mem_drop hmem)
      · rw [if_neg hp]
        simp only [List.mem_cons, not_or]
        exact ⟨fun e => hp e.symm, h⟩
  simp only [normalize, List.mem_reverse]
  exact key parts [] (by simp)

end ContractDrift.Files
