/-
Reading patterns.

`Regex.parse` reads the text of a pattern: alternatives, sequences, sets,
repetitions and groups of every kind.

Design notes: every turn of the mutual recursion takes a token or goes one level
down after taking one, so a bound that grows with the length of the pattern is never
reached.
-/
import ContractDrift.Pattern.Escape
import ContractDrift.Pattern.Search
import ContractDrift.Text.Integer

namespace ContractDrift.Pattern

/-! ## Sets of characters -/

/-- The code of a set that holds one character. -/
def SetItem.code? : SetItem → Option Nat
  | .range low high => if low = high then some low else none
  | .ofClass _ _ => none

/-- What a token stands for in a set. -/
def Token.setItem : Token → Reading SetItem
  | .char c => return .single c.toNat
  | .escape c => setEscape c

/-- Reads the members of a set, up to the bracket that closes it; `start` is the place of
the set and `items` holds the members, newest first. -/
def parseSetItems (start : Nat) : (fuel : Nat) → (items : List SetItem) → Reading (List SetItem)
  | 0, items => return items.reverse
  | n + 1, items => do
    match ← take with
    | none => refuseAt .unclosedSet start
    | some low =>
      if low = .char ']' && !items.isEmpty then return items.reverse
      let item ← low.setItem
      if !(← accept '-') then
        parseSetItems start n (item :: items)
      else match ← take with
        | none => refuseAt .unclosedSet start
        | some high =>
          if high = .char ']' then return (.single '-'.toNat :: item :: items).reverse
          let last ← high.setItem
          match item.code?, last.code? with
          | some a, some b =>
            if b < a then
              refuse (.badRange low.text high.text) (low.size + 1 + high.size)
            parseSetItems start n (.range a b :: items)
          | _, _ => refuse (.badRange low.text high.text) (low.size + 1 + high.size)

/-- Reads a set after its opening bracket. -/
def parseSet : Reading Node := do
  let start := (← left) + 1
  let negated ← accept '^'
  let items ← parseSetItems start ((← left) + 1) []
  return .set negated items

/-! ## Repetitions -/

/-- The greatest count that a repetition can have, and one more. -/
def countBound : Nat := 4294967295

/-- The count that digits say, if there are any. -/
def countOf? (digits : List Char) : Reading (Option Nat) := do
  if digits.isEmpty then return none
  let n := Text.numberOf 10 (digits.map fun c => c.toNat - 0x30)
  if countBound ≤ n then refuse .countTooLarge 0
  return some n

/-- Reads the counts after an opening brace; nothing is taken when they are none. -/
def parseCounts : Reading (Option (Nat × Limit)) := do
  let here := (← get).rest
  if ← nextIs '\x7d' then return none
  let low ← takeDigits
  let high ← (do if ← accept ',' then takeDigits else return low)
  if !(← accept '\x7d') then
    goTo here
    return none
  let least := (← countOf? low).getD 0
  let greatest ← countOf? high
  match greatest with
  | some g => if g < least then refuseAt .leastAboveGreatest here.length
  | none => pure ()
  return some (least, greatest)

/-- The counts that a repetition's sign asks for, if the token is such a sign. -/
def countsOf? (t : Token) : Reading (Option (Nat × Limit)) := do
  match t with
  | .char '?' => return some (0, some 1)
  | .char '*' => return some (0, none)
  | .char '+' => return some (1, none)
  | .char '\x7b' => parseCounts
  | _ => return none

/-- The elements that a repetition of a node repeats. -/
def Node.repeated : Node → List Node
  | .group none change body => if change.isNone then body else [.group none change body]
  | node => [node]

/-- The sequence, newest element first, with its last element repeated; `start` is the
place of the sign. -/
def repeatLast (start least : Nat) (greatest : Limit) : List Node → Reading (List Node)
  | [] => refuseAt .nothingToRepeat start
  | .anchor _ :: _ => refuseAt .nothingToRepeat start
  | .repetition _ _ _ _ :: _ => refuseAt .repeatedRepetition start
  | node :: before => do
    let greed ← (do
      if ← accept '?' then return Greed.least
      else if ← accept '+' then return Greed.possessive
      else return Greed.most)
    return .repetition least greatest greed node.repeated :: before

/-! ## Modes -/

/-- A letter for a mode. -/
inductive ModeLetter where
  | ignoreCase
  | multiline
  | dotAll
  | verbose
  | ascii
  | unicode
  | locale
  | template
  deriving Repr, DecidableEq, Inhabited

namespace ModeLetter

/-- The mode that a letter stands for. -/
def ofChar? (c : Char) : Option ModeLetter :=
  [('i', ignoreCase), ('m', multiline), ('s', dotAll), ('x', verbose), ('a', ascii),
   ('u', unicode), ('L', locale), ('t', template)].lookup c

/-- The mode that a token stands for. -/
def ofToken? : Token → Option ModeLetter
  | .char c => ofChar? c
  | .escape _ => none

/-- Whether a mode says what classes of characters reach to. -/
def isReach (m : ModeLetter) : Bool := m == ascii || m == unicode || m == locale

/-- The modes that some letters turn on. -/
def modesOf (letters : List ModeLetter) : Modes :=
  ⟨letters.contains ignoreCase, letters.contains multiline, letters.contains dotAll,
    letters.contains verbose, letters.contains ascii⟩

end ModeLetter

private def isLetterToken : Token → Bool
  | .char c => Text.isAlphanumeric c && !Text.isDecimalDigit c
  | .escape _ => false

/-- Refuses a token that is no mode where one, or `wanted`, has to stand. -/
def refuseMode {α : Type} (t : Option Token) (wanted : String) : Reading α := do
  match t with
  | none => refuse (.missing wanted) 0
  | some t => refuse (if isLetterToken t then .unknownMode else .missing wanted) t.size

/-- Reads the letters of modes to turn on, from the given one, and the token after. -/
def parseModesOn : (fuel : Nat) → ModeLetter → List ModeLetter →
    Reading (List ModeLetter × Token)
  | 0, _, on => return (on, .char ')')
  | n + 1, letter, on => do
    if letter = .locale then
      refuse (.badModes "cannot use 'L' flag with a str pattern") 0
    let on := letter :: on
    if letter.isReach && on.any (fun m => m.isReach && m != letter) then
      refuse (.badModes "flags 'a', 'u' and 'L' are incompatible") 0
    let t ← take
    match t with
    | some (.char ')') => return (on, .char ')')
    | some (.char '-') => return (on, .char '-')
    | some (.char ':') => return (on, .char ':')
    | _ =>
      match t.bind ModeLetter.ofToken? with
      | some next => parseModesOn n next on
      | none => refuseMode t "-, : or )"

/-- Reads the letters of modes to turn off, from the given one. -/
def parseModesOff : (fuel : Nat) → ModeLetter → List ModeLetter → Reading (List ModeLetter)
  | 0, _, off => return off
  | n + 1, letter, off => do
    if letter.isReach then
      refuse (.badModes "cannot turn off flags 'a', 'u' and 'L'") 0
    let off := letter :: off
    let t ← take
    if t = some (.char ':') then return off
    match t.bind ModeLetter.ofToken? with
    | some next => parseModesOff n next off
    | none => refuseMode t ":"

/-- Reads the modes of a group from their first token; nothing means that the modes are
those of the whole pattern. -/
def parseModes (first : Token) : Reading (Option ModeChange) := do
  let fuel := (← left) + 1
  let (on, closing) ← (do
    match ModeLetter.ofToken? first with
    | some letter => parseModesOn fuel letter []
    | none => return ([], first))
  if closing = .char ')' then
    modify fun s =>
      { s with
        modes := s.modes.union (ModeLetter.modesOf on)
        unicode := s.unicode || on.contains .unicode }
    return none
  if on.contains .template then
    refuse (.badModes "cannot turn on global flag") 1
  let off ← (do
    if closing = .char '-' then
      let t ← take
      match t.bind ModeLetter.ofToken? with
      | some letter => parseModesOff fuel letter []
      | none => refuseMode t "flag"
    else return [])
  if off.contains .template then
    refuse (.badModes "cannot turn off global flag") 1
  if on.any off.contains then
    refuse (.badModes "flag turned on and off") 1
  return some ⟨ModeLetter.modesOf on, ModeLetter.modesOf off, on.contains .unicode⟩

/-! ## Groups -/

/-- Whether a text can name a group. -/
def isGroupName (name : String) : Bool :=
  match name.toList with
  | [] => false
  | c :: r => Text.isWordChar c && !Text.isDecimalDigit c && r.all Text.isWordChar

/-- Takes the name of a group. -/
def takeGroupName (closing : Char) : Reading String := do
  let name ← takeName closing "group name"
  if !isGroupName name then refuse (.badGroupName name) (name.length + 1)
  return name

/-- The group that a name stands for. -/
def groupNamed (name : String) : Reading Nat := do
  match (← get).names.lookup name with
  | some group => return group
  | none => refuse (.unknownGroup name) (name.length + 1)

/-- The group that a condition asks about, by name or number. -/
def takeCondition : Reading Nat := do
  let name ← takeName ')' "group name"
  if isGroupName name then groupNamed name
  else match Text.integer? name.toList with
    | some (.ofNat 0) => refuse .badGroupNumber (name.length + 1)
    | some (.ofNat group) =>
      if 2147483647 ≤ group then refuse (.noSuchGroup group) (name.length + 1)
      let place := (← left) + name.length + 1
      modify fun s =>
        if (s.conditions.lookup group).isSome then s
        else { s with conditions := (group, place) :: s.conditions }
      return group
    | _ => refuse (.badGroupName name) (name.length + 1)

/-- Skips a comment up to the parenthesis that closes it. -/
def skipComment (start : Nat) : (fuel : Nat) → Reading Unit
  | 0 => return ()
  | n + 1 => do
    match ← take with
    | none => refuseAt (.missing "), unterminated comment") start
    | some t => if t = .char ')' then return () else skipComment start n

/-- Skips the rest of a line. -/
def skipLine : (fuel : Nat) → Reading Unit
  | 0 => return ()
  | n + 1 => do
    match ← take with
    | none => return ()
    | some t => if t = .char '\n' then return () else skipLine n

/-- Takes the parenthesis that closes what began at `start`. -/
def closeAt (start : Nat) : Reading Unit := do
  if !(← accept ')') then refuseAt (.missing "), unterminated subpattern") start

/-- What a group is for. -/
inductive GroupKind where
  | capture (name : Option String)
  | plain (change : ModeChange)
  | atomic
  | look (behind negated : Bool)
  | condition (group : Nat)
  /-- A reference to a group by its name: it has no body. -/
  | reference (group : Nat)
  | comment
  /-- The modes of the whole pattern: they have no body. -/
  | modes
  deriving Inhabited

/-- Reads what follows the letter of an extension. -/
def parseExtension : Reading GroupKind := do
  if ← accept '<' then return .capture (some (← takeGroupName '>'))
  if ← accept '=' then
    let name ← takeGroupName ')'
    let group ← groupNamed name
    if ((← get).width? group).isNone then refuse .openGroup (name.length + 1)
    checkLookBehind group
    return .reference group
  match ← take with
  | none => refuse .unexpectedEnd 0
  | some t => refuse (.unknownExtension ("P" ++ t.text)) (t.size + 2)

/-- Reads what a group is for, after its opening parenthesis at `start`. -/
def parseGroupKind (start : Nat) : Reading GroupKind := do
  if !(← accept '?') then return .capture none
  match ← take with
  | none => refuse .unexpectedEnd 0
  | some (.char 'P') => parseExtension
  | some (.char ':') => return .plain ModeChange.none
  | some (.char '#') =>
    skipComment start ((← left) + 1)
    return .comment
  | some (.char '=') => return .look false false
  | some (.char '!') => return .look false true
  | some (.char '<') =>
    match ← take with
    | none => refuse .unexpectedEnd 0
    | some (.char '=') => return .look true false
    | some (.char '!') => return .look true true
    | some t => refuse (.unknownExtension ("<" ++ t.text)) (t.size + 2)
  | some (.char '(') =>
    let group ← takeCondition
    checkLookBehind group
    return .condition group
  | some (.char '>') => return .atomic
  | some t =>
    if (ModeLetter.ofToken? t).isSome || t = .char '-' then
      match ← parseModes t with
      | some change => return .plain change
      | none => return .modes
    else refuse (.unknownExtension t.text) (t.size + 1)

/-! ## Sequences and alternatives -/

/-- The node for some alternatives. -/
def Node.ofAlternatives : List (List Node) → List Node
  | [a] => a
  | alternatives => [.branch alternatives]

private def isVerboseBlank (t : Token) : Bool :=
  t == .char ' ' || t == .char '\t' || t == .char '\n' || t == .char '\r' ||
    t == .char '\x0b' || t == .char '\x0c'

mutual

/-- Reads alternatives; `outer` says that they are those of the whole pattern and `soFar`
holds the ones before, newest first. -/
def parseAlternatives : (fuel : Nat) → (verbose outer : Bool) → (soFar : List (List Node)) →
    Reading (List Node)
  | 0, _, _, _ => refuse .unexpectedEnd 0
  | n + 1, verbose, outer, soFar => do
    let a ← parseSequence n verbose (outer && soFar.isEmpty) []
    if ← accept '|' then
      let modes := (← get).modes
      let verbose := if outer then modes.verbose else verbose
      parseAlternatives n verbose outer (a :: soFar)
    else return Node.ofAlternatives (a :: soFar).reverse

/-- Reads a sequence; `initial` says that the modes of the whole pattern may still be set
and `soFar` holds the elements before, newest first. -/
def parseSequence : (fuel : Nat) → (verbose initial : Bool) → (soFar : List Node) →
    Reading (List Node)
  | 0, _, _, _ => refuse .unexpectedEnd 0
  | n + 1, verbose, initial, soFar => do
    match ← peek with
    | none => return soFar.reverse
    | some (.char '|') => return soFar.reverse
    | some (.char ')') => return soFar.reverse
    | some t =>
      let start ← left
      let _ ← take
      if verbose && isVerboseBlank t then
        parseSequence n verbose initial soFar
      else if verbose && t == .char '#' then
        skipLine ((← left) + 1)
        parseSequence n verbose initial soFar
      else match t with
        | .escape c => parseSequence n verbose initial ((← nodeEscape c) :: soFar)
        | .char '[' => parseSequence n verbose initial ((← parseSet) :: soFar)
        | .char '.' => parseSequence n verbose initial (.any :: soFar)
        | .char '^' => parseSequence n verbose initial (.anchor .lineStart :: soFar)
        | .char '$' => parseSequence n verbose initial (.anchor .lineEnd :: soFar)
        | .char '(' =>
          match ← parseGroupKind start with
          | .comment => parseSequence n verbose initial soFar
          | .modes =>
            if !initial || !soFar.isEmpty then refuseAt .lateModes start
            let now ← get
            parseSequence n now.modes.verbose initial soFar
          | kind =>
            let node ← parseGroup n verbose start kind
            parseSequence n verbose initial (node :: soFar)
        | .char c =>
          match ← countsOf? t with
          | some (least, greatest) =>
            let repeated ← repeatLast start least greatest soFar
            parseSequence n verbose initial repeated
          | none => parseSequence n verbose initial (.literal c.toNat :: soFar)

/-- Reads the body of a group that has one, and its end. -/
def parseGroup : (fuel : Nat) → (verbose : Bool) → (start : Nat) → GroupKind → Reading Node
  | 0, _, _, _ => refuse .unexpectedEnd 0
  | n + 1, verbose, start, kind => do
    match kind with
    | .capture name =>
      let index ← openGroup name
      let body ← parseAlternatives n verbose false []
      closeAt start
      closeGroup index body
      return .group (some index) ModeChange.none body
    | .plain change =>
      let inner := (verbose || change.on.verbose) && !change.off.verbose
      let body ← parseAlternatives n inner false []
      closeAt start
      return .group none change body
    | .atomic =>
      let body ← parseAlternatives n verbose false []
      closeAt start
      return .atomic body
    | .look behind negated =>
      let outside := (← get).lookBehind
      if behind then
        modify fun s => { s with lookBehind := s.lookBehind.orElse fun _ => some s.groups }
      let body ← parseAlternatives n verbose false []
      modify fun s => { s with lookBehind := outside }
      closeAt start
      if !behind then return .look none negated body
      let width := widthOf (← get).groupWidth body
      if some width.least ≠ width.greatest then modify fun s => { s with unfixed := true }
      return .look (some width.least) negated body
    | .condition group =>
      let yes ← parseSequence n verbose false []
      let no ← (do
        if ← accept '|' then
          let no ← parseSequence n verbose false []
          if ← nextIs '|' then refuse .thirdBranch 0
          return no
        else return [])
      closeAt start
      return .conditional group yes no
    | .reference group => return .backreference group
    | .comment => return .group none ModeChange.none []
    | .modes => return .group none ModeChange.none []

end

/-- Refuses a condition on a group that the pattern does not have. -/
def checkConditions : List (Nat × Nat) → Reading Unit
  | [] => return ()
  | (group, place) :: r => do
    if (← get).groups ≤ group then refuseAt (.noSuchGroup group) place
    checkConditions r

/-- Reads a whole pattern. -/
def parseAll : Reading Regex := do
  goTo (← get).rest
  let body ← parseAlternatives (3 * (← left) + 4) false true []
  let s ← get
  if s.modes.ascii && s.unicode then refuse .modesDisagree 0
  if !s.rest.isEmpty then refuse .unbalanced 0
  checkConditions s.conditions.reverse
  if s.unfixed then refuse .unfixedLookBehind 0
  return ⟨s.modes, body⟩

/-- Whether a fault has a place in the pattern. -/
def Fault.hasPlace : Fault → Bool
  | .unfixedLookBehind => false
  | .countTooLarge => false
  | .modesDisagree => false
  | _ => true

/-- Reads the text of a pattern. -/
def Regex.parse (written : String) : Except ReadError Regex :=
  let cs := written.toList
  match parseAll.run (Source.ofText cs) with
  | .ok (p, _) => .ok p
  | .error e =>
    let place := if e.fault.hasPlace then some (Text.positionOf cs e.remaining) else none
    .error ⟨e.fault, place, cs.contains '\n'⟩

end ContractDrift.Pattern
