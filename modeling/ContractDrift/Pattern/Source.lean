/-
Reading the text of a pattern, token by token.

A token is a character, or a backslash with the character after it.  The state of a
reading is what is left of the pattern and what has been learnt about its groups.

Design notes: places are kept as the number of characters from there to the end of
the pattern, which a reader knows without the whole of it.  After each token the next
one is looked at: a backslash that ends the pattern is refused before anything else.
-/
import ContractDrift.Pattern.Expression
import ContractDrift.Pattern.Fault

namespace ContractDrift.Pattern

/-- A piece of a pattern's text. -/
inductive Token where
  | char (c : Char)
  | escape (c : Char)
  deriving Repr, DecidableEq, Inhabited

namespace Token

/-- The characters of a token. -/
def chars : Token → List Char
  | .char c => [c]
  | .escape c => ['\\', c]

/-- The text of a token. -/
def text (t : Token) : String := String.ofList t.chars

/-- The number of characters of a token. -/
def size (t : Token) : Nat := t.chars.length

/-- The token at the start of a text. -/
def first? : List Char → Option Token
  | [] => none
  | [c] => some (.char c)
  | c :: d :: _ => some (if c = '\\' then .escape d else .char c)

end Token

/-- The state of a reading. -/
structure Source where
  rest : List Char
  modes : Modes
  /-- Whether the pattern asks for classes beyond ASCII. -/
  unicode : Bool
  /-- The number of groups opened, with the whole match as one. -/
  groups : Nat
  /-- The widths of the groups that are closed. -/
  widths : List (Nat × Width)
  names : List (String × Nat)
  /-- In a look-behind, the number of groups opened before it. -/
  lookBehind : Option Nat
  /-- Groups that conditions name, with the places where they do, newest first. -/
  conditions : List (Nat × Nat)
  /-- Whether some look-behind has no fixed width. -/
  unfixed : Bool
  deriving Inhabited

/-- The state before anything is read. -/
def Source.ofText (cs : List Char) : Source :=
  ⟨cs, Modes.none, false, 1, [], [], none, [], false⟩

/-- A fault, with the number of characters from its place to the end. -/
structure Refusal where
  fault : Fault
  remaining : Nat
  deriving Repr, Inhabited

/-- Reading a pattern. -/
abbrev Reading := StateT Source (Except Refusal)

/-- The number of characters left. -/
def left : Reading Nat := return (← get).rest.length

/-- Refuses with a place `back` characters before what is left. -/
def refuse {α : Type} (fault : Fault) (back : Nat) : Reading α := do
  throw ⟨fault, (← left) + back⟩

/-- Refuses with a place that has been noted. -/
def refuseAt {α : Type} (fault : Fault) (remaining : Nat) : Reading α := throw ⟨fault, remaining⟩

/-- The next token, which stays. -/
def peek : Reading (Option Token) := return Token.first? (← get).rest

/-- Whether the next token is the given character. -/
def nextIs (c : Char) : Reading Bool := return (← peek) == some (.char c)

/-- Goes on with some text, whose first token is looked at. -/
def goTo (rest : List Char) : Reading Unit := do
  if rest = ['\\'] then throw ⟨.unfinishedEscape, 1⟩
  modify fun s => { s with rest }

/-- Takes the next token. -/
def take : Reading (Option Token) := do
  let s ← get
  match Token.first? s.rest with
  | none => return none
  | some t =>
    goTo (s.rest.drop t.size)
    return some t

/-- Takes the next token if it is the given character. -/
def accept (c : Char) : Reading Bool := do
  if ← nextIs c then
    let _ ← take
    return true
  return false

/-- Takes characters while they are of a kind, `n` at most. -/
def takeSome (p : Char → Bool) : (n : Nat) → Reading (List Char)
  | 0 => return []
  | n + 1 => do
    match ← peek with
    | some (.char c) =>
      if p c then
        let _ ← take
        return c :: (← takeSome p n)
      return []
    | _ => return []

/-- Takes digits. -/
def takeDigits : Reading (List Char) := do takeSome Char.isDigit (← left)

/-- Takes the text before a closing character, which is taken too; `soFar` is newest
first. -/
def takeUntil (closing : Char) (what : String) : (fuel : Nat) → (soFar : List Char) →
    Reading (List Char)
  | 0, soFar => return soFar.reverse
  | n + 1, soFar => do
    match ← take with
    | none =>
      if soFar.isEmpty then refuse (.missing what) 0
      else refuse (.missing (String.singleton closing ++ ", unterminated name")) soFar.length
    | some t =>
      if t = .char closing then
        if soFar.isEmpty then refuse (.missing what) 1 else return soFar.reverse
      else takeUntil closing what n (t.chars.reverse ++ soFar)

/-- Takes a name and the character that closes it. -/
def takeName (closing : Char) (what : String) : Reading String := do
  return String.ofList (← takeUntil closing what ((← left) + 1) [])

/-- The width of a group that is closed. -/
def Source.width? (s : Source) (group : Nat) : Option Width := s.widths.lookup group

/-- The widths of groups; one that is not closed has none. -/
def Source.groupWidth (s : Source) (group : Nat) : Width := (s.width? group).getD ⟨0, some 0⟩

/-- Refuses, inside a look-behind, a group that is not complete before it. -/
def checkLookBehind (group : Nat) : Reading Unit := do
  let s ← get
  match s.lookBehind with
  | none => return ()
  | some opened =>
    if (s.width? group).isNone then refuse .openGroup 0
    if opened ≤ group then refuse .groupOfLookBehind 0

/-- Opens a group and gives its number. -/
def openGroup (name : Option String) : Reading Nat := do
  let s ← get
  let index := s.groups
  set { s with groups := index + 1 }
  match name with
  | none => return index
  | some name =>
    match s.names.lookup name with
    | some former => refuse (.groupNameTaken name index former) (name.length + 1)
    | none =>
      modify fun s => { s with names := (name, index) :: s.names }
      return index

/-- Closes a group. -/
def closeGroup (index : Nat) (body : List Node) : Reading Unit :=
  modify fun s => { s with widths := (index, widthOf s.groupWidth body) :: s.widths }

end ContractDrift.Pattern
