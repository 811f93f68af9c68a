/-
Finding a pattern in a text.

`search` says whether a pattern matches at some place of a text.  Alternatives and
repetitions are tried in their order of preference, and what has been tried is taken
back when what follows does not match.

Design notes: the matcher gets what follows as a function (`next`), which is how a
choice is taken back.  It recurses on a bound on its steps, large enough for every
turn of every repetition: a turn that consumes nothing ends its repetition.
-/
import ContractDrift.Pattern.Expression

namespace ContractDrift.Pattern

/-- A place in a text with what the groups have matched; `before` is newest first. -/
structure Place where
  before : List Char
  rest : List Char
  groups : List (Nat × List Char)
  deriving Repr, Inhabited

/-- The place after one more character. -/
def Place.step? (p : Place) : Option (Char × Place) :=
  match p.rest with
  | [] => none
  | c :: r => some (c, { p with before := c :: p.before, rest := r })

/-- Whether a member of a set holds a character. -/
def SetItem.holds (m : Modes) (c : Char) : SetItem → Bool
  | .range low high => low ≤ c.toNat && c.toNat ≤ high
  | .ofClass negated k => k.holds m.ascii c != negated

/-- Whether a character is one of those that a set wants. -/
def setHolds (m : Modes) (negated : Bool) (items : List SetItem) (c : Char) : Bool :=
  let variants := if m.ignoreCase then caseVariants m.ascii c else [c]
  (variants.any fun v => items.any (·.holds m v)) != negated

/-- Whether a character is the wanted one. -/
def charFits (m : Modes) (code : Nat) (c : Char) : Bool :=
  c.toNat == code || (m.ignoreCase && (caseVariants m.ascii c).any (·.toNat == code))

private def isWordAt (m : Modes) (cs : List Char) : Bool :=
  match cs with
  | c :: _ => CharClass.word.holds m.ascii c
  | [] => false

/-- Whether a place is one that an anchor asks for. -/
def Anchor.holds (m : Modes) (p : Place) : Anchor → Bool
  | .textStart => p.before.isEmpty
  | .textEnd => p.rest.isEmpty
  | .lineStart => p.before.isEmpty || (m.multiline && p.before.head? == some '\n')
  | .lineEnd => p.rest.isEmpty || p.rest == ['\n'] || (m.multiline && p.rest.head? == some '\n')
  | .wordBoundary => isWordAt m p.before != isWordAt m p.rest
  | .noWordBoundary => isWordAt m p.before == isWordAt m p.rest

/-- The place after a text that stands there, letter by letter. -/
def Place.follow? (m : Modes) (p : Place) : List Char → Option Place
  | [] => some p
  | x :: xs =>
    match p.step? with
    | some (c, p) => if charFits m x.toNat c then Place.follow? m p xs else none
    | none => none

/-- The place `n` characters earlier. -/
def Place.back? (p : Place) : Nat → Option Place
  | 0 => some p
  | n + 1 =>
    match p.before with
    | c :: b => Place.back? { p with before := b, rest := c :: p.rest } n
    | [] => none

/-- The place with what a group has matched since `start`. -/
def Place.capture (p : Place) (index : Option Nat) (start : Place) : Place :=
  match index with
  | none => p
  | some i =>
    let taken := start.rest.take (start.rest.length - p.rest.length)
    { p with groups := (i, taken) :: p.groups.filter (·.1 != i) }

/-- What follows an element: the place that a whole match ends at, if it leads to one. -/
abbrev Next := Place → Option Place

mutual

/-- Matches a sequence and what follows it. -/
def matchAll : (fuel : Nat) → Modes → List Node → Place → Next → Option Place
  | 0, _, _, _, _ => none
  | _ + 1, _, [], p, next => next p
  | n + 1, m, node :: r, p, next =>
    matchNode n m node p fun p => matchAll n m r p next

/-- Matches one element and what follows it. -/
def matchNode : (fuel : Nat) → Modes → Node → Place → Next → Option Place
  | 0, _, _, _, _ => none
  | n + 1, m, node, p, next =>
    match node with
    | .literal code =>
      match p.step? with
      | some (c, q) => if charFits m code c then next q else none
      | none => none
    | .any =>
      match p.step? with
      | some (c, q) => if m.dotAll || c != '\n' then next q else none
      | none => none
    | .set negated items =>
      match p.step? with
      | some (c, q) => if setHolds m negated items c then next q else none
      | none => none
    | .anchor a => if a.holds m p then next p else none
    | .group index change body =>
      matchAll n (change.apply m) body p fun q => next (q.capture index p)
    | .branch alternatives => matchAny n m alternatives p next
    | .repetition least greatest greed body =>
      match greed with
      | .possessive =>
        match matchTurns n m .most least greatest body p some with
        | some q => next q
        | none => none
      | _ => matchTurns n m greed least greatest body p next
    | .look back negated body =>
      let found := match p.back? (back.getD 0) with
        | some s => matchAll n m body s some
        | none => none
      match found, negated with
      | some q, false => next { p with groups := q.groups }
      | none, true => next p
      | _, _ => none
    | .atomic body =>
      match matchAll n m body p some with
      | some q => next q
      | none => none
    | .backreference i =>
      match p.groups.lookup i with
      | some taken =>
        match p.follow? m taken with
        | some q => next q
        | none => none
      | none => none
    | .conditional i yes no =>
      if (p.groups.lookup i).isSome then matchAll n m yes p next else matchAll n m no p next

/-- Matches the first of some sequences that leads on. -/
def matchAny : (fuel : Nat) → Modes → List (List Node) → Place → Next → Option Place
  | 0, _, _, _, _ => none
  | _ + 1, _, [], _, _ => none
  | n + 1, m, a :: r, p, next =>
    match matchAll n m a p next with
    | some q => some q
    | none => matchAny n m r p next

/-- Matches the turns of a repetition and what follows them. -/
def matchTurns : (fuel : Nat) → Modes → Greed → Nat → Limit → List Node → Place → Next →
    Option Place
  | 0, _, _, _, _, _, _, _ => none
  | n + 1, m, greed, least, greatest, body, p, next =>
    let turn (least : Nat) (mayStand : Bool) : Option Place :=
      matchAll n m body p fun q =>
        if !mayStand && q.rest.length == p.rest.length then none
        else matchTurns n m greed least (greatest.map (· - 1)) body q next
    match least with
    | k + 1 => turn k true
    | 0 =>
      if greatest = some 0 then next p
      else match greed with
        | .least =>
          match next p with
          | some q => some q
          | none => turn 0 false
        | _ =>
          match turn 0 false with
          | some q => some q
          | none => next p

end

/-- A pattern that can be searched for. -/
structure Regex where
  modes : Modes
  body : List Node
  deriving Inhabited

/-- Whether a pattern matches at a place. -/
def Regex.matchesAt (x : Regex) (p : Place) : Bool :=
  (matchAll ((weightOf x.body + 2) * (p.rest.length + p.before.length + 3) * 2) x.modes x.body p
    some).isSome

/-- Whether a pattern matches at a place or a later one. -/
def Regex.searchFrom (x : Regex) : List Char → List Char → Bool
  | before, [] => x.matchesAt ⟨before, [], []⟩
  | before, c :: r => x.matchesAt ⟨before, c :: r, []⟩ || x.searchFrom (c :: before) r

/-- Whether a pattern matches somewhere in a text. -/
def Regex.search (x : Regex) (s : String) : Bool := x.searchFrom [] s.toList

end ContractDrift.Pattern
