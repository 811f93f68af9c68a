/-
Patterns for names of files.

A pattern is a relative path whose components may hold wildcards: `*` stands for any
characters, `?` for one, and brackets for one of a set.  The component `**` stands for
any number of directories.  `select` gives the paths that a pattern leads to from a
directory, as they are written, with the steps back of the pattern in them; a path that is
too long to be looked up ends the search.
-/
import ContractDrift.Files.Tree
import ContractDrift.Text.Quoted

namespace ContractDrift.Files

/-- A piece of a component of a pattern. -/
inductive Wildcard where
  | literal (c : Char)
  | anyChar
  | anyChars
  /-- One character inside the ranges, or outside them. -/
  | oneOf (negated : Bool) (ranges : List (Char × Char))
  deriving Repr, Inhabited

/-- The ranges between two brackets; a range that is backwards holds nothing. -/
def rangesOf : List Char → List (Char × Char)
  | a :: '-' :: b :: r => (a, b) :: rangesOf r
  | a :: r => (a, a) :: rangesOf r
  | [] => []

/-- The characters of a set up to its closing bracket, which does not count in the first
place. -/
def takeSet (cs : List Char) : Option (List Char × List Char) :=
  let (mark, r) := match cs with
    | '!' :: r => (['!'], r)
    | r => ([], r)
  let (first, r) := match r with
    | ']' :: r => ([']'], r)
    | r => ([], r)
  (Text.splitFirst ']' r).map fun (body, rest) => (mark ++ first ++ body, rest)

/-- The set between two brackets. -/
def setOf : List Char → Wildcard
  | '!' :: r => .oneOf true (rangesOf r)
  | r => .oneOf false (rangesOf r)

/-- The pieces of a component. -/
def wildcards : (fuel : Nat) → List Char → List Wildcard
  | 0, _ => []
  | _ + 1, [] => []
  | n + 1, '*' :: r => .anyChars :: wildcards n r
  | n + 1, '?' :: r => .anyChar :: wildcards n r
  | n + 1, '[' :: r =>
    match takeSet r with
    | some (body, rest) => setOf body :: wildcards n rest
    | none => .literal '[' :: wildcards n r
  | n + 1, c :: r => .literal c :: wildcards n r

/-- Whether one character fits a piece. -/
def Wildcard.fits : Wildcard → Char → Bool
  | .literal c, x => c == x
  | .anyChar, _ => true
  | .anyChars, _ => true
  | .oneOf negated ranges, x => ranges.any (fun r => r.1 ≤ x && x ≤ r.2) != negated

/-- Whether a name fits the pieces. -/
def fitsAll : List Wildcard → List Char → Bool
  | [], [] => true
  | [], _ :: _ => false
  | .anyChars :: ws, cs => go ws cs
  | _ :: _, [] => false
  | w :: ws, c :: cs => w.fits c && fitsAll ws cs
where
  /-- Whether some end of the name fits the pieces. -/
  go (ws : List Wildcard) : List Char → Bool
    | [] => fitsAll ws []
    | c :: cs => fitsAll ws (c :: cs) || go ws cs

/-- One component of a pattern. -/
inductive Segment where
  | exact (name : String)
  | wild (pieces : List Wildcard)
  | anyDirectories
  /-- What a final slash leaves. -/
  | here
  deriving Repr, Inhabited

/-- Why a pattern is refused. -/
inductive PatternError where
  | empty
  | absolute
  | noComponents
  /-- There is nothing but single points before a final slash. -/
  | onlySlash
  | partialRecursion
  deriving Repr, DecidableEq, Inhabited

/-- The wording of a refusal. -/
def PatternError.message : PatternError → String
  | .empty => "Unacceptable pattern: ''"
  | .absolute => "Non-relative patterns are unsupported"
  | .noComponents => "tuple index out of range"
  | .onlySlash => "'_TerminatingSelector' object has no attribute 'select_from'"
  | .partialRecursion => "Invalid pattern: '**' can only be an entire path component"

/-- One component of a pattern, from its text. -/
def Segment.of (s : String) : Except PatternError Segment :=
  if s = "**" then .ok .anyDirectories
  else if Text.contains ['*', '*'] s.toList then .error .partialRecursion
  else if s.toList.any fun c => c == '*' || c == '?' || c == '[' then
    .ok (.wild (wildcards (s.length + 1) s.toList))
  else .ok (.exact s)

/-- The components of a pattern. -/
def Segment.parse (pattern : String) : Except PatternError (List Segment) :=
  if pattern = "" then .error .empty
  else if isAbsolute pattern then .error .absolute
  else do
    let segments ← (components pattern).mapM Segment.of
    match segments with
    | [] => .error (if Text.endsWith ['/'] pattern.toList then .onlySlash else .noComponents)
    | _ => pure (if Text.endsWith ['/'] pattern.toList then segments ++ [.here] else segments)

/-- What a search comes to: a path that it finds, or one that is too long to be looked up,
where the search ends. -/
inductive Hit where
  | found (p : Path)
  | tooLong (p : Path)
  deriving Repr, DecidableEq, Inhabited

/-- Goes on from what a search has found. -/
def Hit.andThen (search : Path → List Hit) : Hit → List Hit
  | .found p => search p
  | .tooLong p => [.tooLong p]

/-- The directories inside a directory at any depth, with itself first; `depth` bounds how
far down they lie. -/
def directoriesBelow (t : Tree) : (depth : Nat) → Path → List Hit
  | 0, p => [.found p]
  | n + 1, p =>
    .found p ::
      if t.isOverlong p then [.tooLong p]
      else ((t.names (normalize p)).map (p ++ [·])).flatMap fun q =>
        if t.isDirectory (normalize q) then directoriesBelow t n q else []

/-- The greatest number of components of an entry. -/
def Tree.depth (t : Tree) : Nat := (t.entries.map (·.1.length)).foldl max 0

/-- The members of a list, each at its first place only. -/
def distinctHits : List Hit → List Hit
  | [] => []
  | h :: hs => h :: (distinctHits hs).filter (· != h)

/-- What the components of a pattern lead to from a path; steps back are kept as they are
written. -/
def selectFrom (t : Tree) : List Segment → Path → List Hit
  | [], p => [.found p]
  | .here :: _, p => [.found p]
  | .exact name :: rest, p =>
    let q := p ++ [name]
    let stands := if rest.isEmpty then (t.entry? (normalize q)).isSome
      else t.isDirectory (normalize q)
    if t.isOverlong q then [.tooLong q] else if stands then selectFrom t rest q else []
  | .wild pieces :: rest, p =>
    let fitting := (t.names (normalize p)).filter fun name =>
      fitsAll pieces name.toList &&
        (rest.isEmpty || t.isDirectory (normalize p ++ [name]))
    if t.isOverlong p then [.tooLong p]
    else fitting.flatMap fun name => selectFrom t rest (p ++ [name])
  | .anyDirectories :: rest, p =>
    distinctHits ((directoriesBelow t (t.depth + 1) p).flatMap (Hit.andThen (selectFrom t rest)))

/-- What a pattern leads to from a directory. -/
def select (t : Tree) (pattern : String) (directory : Path) : Except PatternError (List Hit) := do
  let segments ← Segment.parse pattern
  pure (if t.isDirectory directory then selectFrom t segments directory else [])

end ContractDrift.Files
