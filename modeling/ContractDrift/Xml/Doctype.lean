/-
The document type declaration.

`Doctype.read` takes what is left of a prolog after the keyword `DOCTYPE` and answers
the definitions of the document with what is left after the declaration.  Entities
and attributes are taken in as they are declared; element types and notations are
only checked for their form.

Design notes: there is one reader for each kind of declaration, each a short walk over
the tokens that may follow one another.  A token that may not stand where it does is
an unexpected token, a misplaced declaration of the document or a reference to a
parameter entity, whichever it is.
-/
import ContractDrift.Xml.PrologToken
import ContractDrift.Xml.Content

namespace ContractDrift.Xml

/-- A failure of scanning in a prolog at a token that starts at `token`. -/
def prologStop (token : Source) : Stop → Failure
  | .invalid rest => ⟨.invalidToken, rest⟩
  | .unclosed => ⟨.unclosedToken, token⟩
  | .cut => ⟨.partialCharacter, token⟩

/-- The next token that is not blank: the token, what is left at it and after it. -/
structure Significant where
  token : PrologToken
  place : Source
  rest : Source

/-- The next token, which must not be missing. -/
def tokenAt (k : NameClass) (gs : Source) : Except Failure (PrologToken × Source) :=
  match nextPrologToken k gs with
  | .error s => .error (prologStop gs s)
  | .ok none => .error ⟨.noElement, gs⟩
  | .ok (some t) => .ok t

/-- The next token that is not blank. -/
def significant (k : NameClass) (gs : Source) : Except Failure Significant := do
  match ← tokenAt k gs with
  | (.blanks, r) =>
    let (t, r') ← tokenAt k r
    pure ⟨t, r, r'⟩
  | (t, r) => pure ⟨t, gs, r⟩

/-- The failure at a token that may not stand where it does. -/
def Significant.unexpected {α : Type} (s : Significant) : Except Failure α :=
  let fault := match s.token with
    | .parameterReference => .parameterReference
    | .instruction .declaration _ _ => .misplacedDeclaration
    | _ => .unexpectedToken
  .error ⟨fault, s.place⟩

/-- The closing bracket of a declaration. -/
def expectClose (k : NameClass) (gs : Source) : Except Failure Source := do
  let s ← significant k gs
  match s.token with
  | .close => pure s.rest
  | _ => s.unexpected

/-- A literal: its body, what is left at its closing quote, at it and after it. -/
structure LiteralToken where
  body : Source
  after : Source
  place : Source
  rest : Source

/-- The next literal. -/
def expectLiteral (k : NameClass) (gs : Source) : Except Failure LiteralToken := do
  let s ← significant k gs
  match s.token with
  | .literal body after => pure ⟨body, after, s.place, s.rest⟩
  | _ => s.unexpected

/-- A name with or without a prefix, and what is left. -/
def expectAnyName (k : NameClass) (gs : Source) : Except Failure (List Char × Source) := do
  let s ← significant k gs
  match s.token with
  | .name n => pure (n, s.rest)
  | .prefixedName n => pure (n, s.rest)
  | _ => s.unexpected

/-- A name without a prefix, and what is left. -/
def expectPlainName (k : NameClass) (gs : Source) : Except Failure (List Char × Source) := do
  let s ← significant k gs
  match s.token with
  | .name n => pure (n, s.rest)
  | _ => s.unexpected

/-! ## Identifiers of what stands outside -/

/-- Whether a character may stand in a public identifier. -/
def isPublicIdChar (c : Char) : Bool :=
  c.isAlphanum || c == ' ' || c == '\n' || c == '\r' ||
  "-'()+,./:=?;!*#@$_%".toList.contains c

/-- What is left at the first glyph that may not stand in a public identifier. -/
def publicIdFault? : Source → Source → Option Source
  | [], _ => none
  | g :: r, after =>
    match g with
    | .char c => if isPublicIdChar c then publicIdFault? r after else some (g :: r ++ after)
    | _ => some (g :: r ++ after)

/-- A public identifier and what is left. -/
def expectPublicId (k : NameClass) (gs : Source) : Except Failure Source := do
  let l ← expectLiteral k gs
  match publicIdFault? l.body l.after with
  | some place => .error ⟨.invalidPublicId, place⟩
  | none => pure l.rest

/-- What a keyword says about where an entity stands. -/
inductive Outside where
  | system
  | publicId
  deriving Repr, DecidableEq

/-- The keyword that a name is. -/
def Outside.ofKeyword? (n : List Char) : Option Outside :=
  if n = "SYSTEM".toList then some .system
  else if n = "PUBLIC".toList then some .publicId
  else none

/-- The identifiers after a keyword. -/
def expectIdentifiers (k : NameClass) (o : Outside) (gs : Source) : Except Failure Source := do
  let gs ← match o with
    | .publicId => expectPublicId k gs
    | .system => pure gs
  let l ← expectLiteral k gs
  pure l.rest

/-! ## Entities -/

/-- The text that the value of an entity stands for: references to characters are
replaced, those to entities stay. -/
def entityText (k : NameClass) (after : Source) :
    (fuel : Nat) → (acc : List Char) → Source → Except Mishap (List Char)
  | 0, acc, _ => .ok acc.reverse
  | _ + 1, acc, [] => .ok acc.reverse
  | n + 1, acc, g :: r =>
    let fail (f : Fault) (gs : Source) : Except Mishap (List Char) := .error ⟨f, some (gs ++ after)⟩
    match g with
    | .char '&' =>
      match scanReference k r with
      | .error (.invalid rest) => fail .invalidToken rest
      | .error _ => fail .invalidToken (g :: r)
      | .ok (.character number, rest) =>
        match characterOf? number with
        | none => fail .invalidCharacterNumber (g :: r)
        | some c => entityText k after n (c :: acc) rest
      | .ok (.entity name, rest) =>
        entityText k after n (';' :: (name.reverse ++ '&' :: acc)) rest
    | .char '%' =>
      match scanPercent k r with
      | .error (.invalid rest) => fail .invalidToken rest
      | .error _ => fail .invalidToken (g :: r)
      | .ok (.percent, rest) => fail .invalidToken rest
      | .ok _ => fail .parameterReference (g :: r)
    | .char '\r' =>
      match r with
      | .char '\n' :: r' => entityText k after n ('\n' :: acc) r'
      | _ => entityText k after n ('\n' :: acc) r
    | _ => entityText k after n (g.toChar :: acc) r

/-- The text of an entity given by a literal. -/
def literalEntity (k : NameClass) (d : Definitions) (l : LiteralToken) :
    Except Failure (List Char) :=
  if d.takesDeclarations then
    match entityText k l.after (l.body.length + 1) [] l.body with
    | .ok text => .ok text
    | .error m => .error ⟨m.fault, m.place.getD l.place⟩
  else .ok []

/-- The definitions with an entity, unless it is one that needs no declaration or none is taken
in. -/
def record (d : Definitions) (name : List Char) (e : Entity) : Definitions :=
  if d.takesDeclarations && (predefined? name).isNone then d.addEntity name e else d

/-- The rest of the declaration of a general entity, after its name. -/
def readGeneralEntity (k : NameClass) (d : Definitions) (name : List Char) (gs : Source) :
    Except Failure (Definitions × Source) := do
  let s ← significant k gs
  match s.token with
  | .literal body after =>
    let text ← literalEntity k d ⟨body, after, s.place, s.rest⟩
    let rest ← expectClose k s.rest
    pure (record d name (.internal text), rest)
  | .name n =>
    match Outside.ofKeyword? n with
    | none => s.unexpected
    | some o =>
      let r ← expectIdentifiers k o s.rest
      let s ← significant k r
      match s.token with
      | .close => pure (record d name .external, s.rest)
      | .name n =>
        if n = "NDATA".toList then
          let (_, r) ← expectPlainName k s.rest
          let r ← expectClose k r
          pure (record d name .binary, r)
        else s.unexpected
      | _ => s.unexpected
  | _ => s.unexpected

/-- The rest of the declaration of a parameter entity, after its name. -/
def readParameterEntity (k : NameClass) (d : Definitions) (gs : Source) :
    Except Failure Source := do
  let s ← significant k gs
  match s.token with
  | .literal body after =>
    let _ ← literalEntity k d ⟨body, after, s.place, s.rest⟩
    expectClose k s.rest
  | .name n =>
    match Outside.ofKeyword? n with
    | none => s.unexpected
    | some o =>
      let r ← expectIdentifiers k o s.rest
      expectClose k r
  | _ => s.unexpected

/-- The declaration of an entity, after its keyword. -/
def readEntity (k : NameClass) (d : Definitions) (gs : Source) :
    Except Failure (Definitions × Source) := do
  let s ← significant k gs
  match s.token with
  | .percent =>
    let (_, r) ← expectPlainName k s.rest
    let r ← readParameterEntity k d r
    pure (d, r)
  | .name n => readGeneralEntity k d n s.rest
  | _ => s.unexpected

/-! ## Attributes -/

/-- What a declared type means for an attribute. -/
structure AttributeType where
  isCharacterData : Bool
  isIdentifier : Bool

private def namedTypes : List (List Char) :=
  ["CDATA", "ID", "IDREF", "IDREFS", "ENTITY", "ENTITIES", "NMTOKEN", "NMTOKENS"].map (·.toList)

/-- The members of an enumeration up to its closing parenthesis; notations are plain
names. -/
def readEnumeration (k : NameClass) (plainNames : Bool) : (fuel : Nat) → Source →
    Except Failure Source
  | 0, gs => .error ⟨.noElement, gs⟩
  | n + 1, gs => do
    let s ← significant k gs
    let isMember := match s.token with
      | .name _ => true
      | .prefixedName _ => !plainNames
      | .nameToken _ => !plainNames
      | _ => false
    if isMember then
      let s ← significant k s.rest
      match s.token with
      | .closeParen none => pure s.rest
      | .bar => readEnumeration k plainNames n s.rest
      | _ => s.unexpected
    else s.unexpected

/-- The type of a declared attribute. -/
def readAttributeType (k : NameClass) (gs : Source) :
    Except Failure (AttributeType × Source) := do
  let s ← significant k gs
  match s.token with
  | .openParen =>
    let r ← readEnumeration k false (s.rest.length + 1) s.rest
    pure (⟨false, false⟩, r)
  | .name n =>
    if n = "NOTATION".toList then
      let s ← significant k s.rest
      match s.token with
      | .openParen =>
        let r ← readEnumeration k true (s.rest.length + 1) s.rest
        pure (⟨false, false⟩, r)
      | _ => s.unexpected
    else if namedTypes.contains n then
      pure (⟨n == "CDATA".toList, n == "ID".toList⟩, s.rest)
    else s.unexpected
  | _ => s.unexpected

/-- The default value that a literal gives to an attribute. -/
def literalDefault (k : NameClass) (d : Definitions) (t : AttributeType) (l : LiteralToken) :
    Except Failure (List Char) :=
  if d.takesDeclarations then
    match normalize k d [] t.isCharacterData true l.body l.after with
    | .ok v => .ok v
    | .error m => .error ⟨m.fault, m.place.getD l.place⟩
  else .ok []

/-- The default of a declared attribute, and what is left. -/
def readDefault (k : NameClass) (d : Definitions) (t : AttributeType) (gs : Source) :
    Except Failure (Option (List Char) × Source) := do
  let s ← significant k gs
  match s.token with
  | .literal body after =>
    let v ← literalDefault k d t ⟨body, after, s.place, s.rest⟩
    pure (some v, s.rest)
  | .numberSignName n =>
    if n = "IMPLIED".toList ∨ n = "REQUIRED".toList then pure (none, s.rest)
    else if n = "FIXED".toList then
      let l ← expectLiteral k s.rest
      let v ← literalDefault k d t l
      pure (some v, l.rest)
    else s.unexpected
  | _ => s.unexpected

/-- The attributes of an element type up to the closing bracket. -/
def readAttributes (k : NameClass) (element : List Char) :
    (fuel : Nat) → Definitions → Source → Except Failure (Definitions × Source)
  | 0, _, gs => .error ⟨.noElement, gs⟩
  | n + 1, d, gs => do
    let s ← significant k gs
    let one (name : List Char) : Except Failure (Definitions × Source) := do
      let (t, r) ← readAttributeType k s.rest
      let (v, r) ← readDefault k d t r
      let d := if d.takesDeclarations then
        d.addAttribute element ⟨name, t.isCharacterData, v⟩ t.isIdentifier else d
      readAttributes k element n d r
    match s.token with
    | .close => pure (d, s.rest)
    | .name name => one name
    | .prefixedName name => one name
    | _ => s.unexpected

/-! ## Element types and notations -/

/-- The names of mixed content after its first word. -/
def readMixed (k : NameClass) : (fuel : Nat) → (first : Bool) → Source → Except Failure Source
  | 0, _, gs => .error ⟨.noElement, gs⟩
  | n + 1, first, gs => do
    let s ← significant k gs
    match s.token with
    | .closeParen none => if first then expectClose k s.rest else s.unexpected
    | .closeParen (some '*') => expectClose k s.rest
    | .bar =>
      let (_, r) ← expectAnyName k s.rest
      readMixed k n false r
    | _ => s.unexpected

mutual

/-- A member of a group, inside groups whose connectors are given innermost first. -/
def readMember (k : NameClass) : (fuel : Nat) → List (Option Char) → Source →
    Except Failure Source
  | 0, _, gs => .error ⟨.noElement, gs⟩
  | n + 1, groups, gs => do
    let s ← significant k gs
    match s.token with
    | .openParen => readMember k n (none :: groups) s.rest
    | .name _ => readAfterMember k n groups s.rest
    | .prefixedName _ => readAfterMember k n groups s.rest
    | .markedName _ => readAfterMember k n groups s.rest
    | _ => s.unexpected

/-- What follows a member of a group: the end of the group, or a connector that agrees
with the one before. -/
def readAfterMember (k : NameClass) : (fuel : Nat) → List (Option Char) → Source →
    Except Failure Source
  | 0, _, gs => .error ⟨.noElement, gs⟩
  | n + 1, groups, gs => do
    let s ← significant k gs
    let connect (c : Char) : Except Failure Source :=
      match groups with
      | some c' :: _ => if c' = c then readMember k n groups s.rest else s.unexpected
      | none :: outer => readMember k n (some c :: outer) s.rest
      | [] => s.unexpected
    match s.token with
    | .comma => connect ','
    | .bar => connect '|'
    | .closeParen _ =>
      match groups with
      | _ :: g :: outer => readAfterMember k n (g :: outer) s.rest
      | _ => expectClose k s.rest
    | _ => s.unexpected

end

/-- The declaration of an element type, after its keyword. -/
def readElementType (k : NameClass) (gs : Source) : Except Failure Source := do
  let (_, r) ← expectAnyName k gs
  let s ← significant k r
  match s.token with
  | .name n =>
    if n = "EMPTY".toList ∨ n = "ANY".toList then expectClose k s.rest else s.unexpected
  | .openParen =>
    let inner ← significant k s.rest
    match inner.token with
    | .numberSignName n =>
      if n = "PCDATA".toList then readMixed k (inner.rest.length + 1) true inner.rest
      else inner.unexpected
    | _ => readMember k (2 * s.rest.length + 2) [none] s.rest
  | _ => s.unexpected

/-- The declaration of a notation, after its keyword. -/
def readNotation (k : NameClass) (gs : Source) : Except Failure Source := do
  let (_, r) ← expectPlainName k gs
  let s ← significant k r
  match s.token with
  | .name n =>
    match Outside.ofKeyword? n with
    | none => s.unexpected
    | some .system =>
      let l ← expectLiteral k s.rest
      expectClose k l.rest
    | some .publicId =>
      let r ← expectPublicId k s.rest
      let s ← significant k r
      match s.token with
      | .literal _ _ => expectClose k s.rest
      | .close => pure s.rest
      | _ => s.unexpected
  | _ => s.unexpected

/-! ## The whole declaration -/

/-- The declarations between the brackets, up to the closing one. -/
def readSubset (k : NameClass) : (fuel : Nat) → Definitions → Source →
    Except Failure (Definitions × Source)
  | 0, _, gs => .error ⟨.noElement, gs⟩
  | n + 1, d, gs => do
    let s ← significant k gs
    match s.token with
    | .closeBracket => pure (d, s.rest)
    | .comment => readSubset k n d s.rest
    | .instruction .other _ _ => readSubset k n d s.rest
    | .parameterReference =>
      readSubset k n { d with hasOutsideParts := true, takesDeclarations := d.standalone } s.rest
    | .declaration word =>
      if word = "ENTITY".toList then
        let (d, r) ← readEntity k d s.rest
        readSubset k n d r
      else if word = "ATTLIST".toList then
        let (element, r) ← expectAnyName k s.rest
        let (d, r) ← readAttributes k element (r.length + 1) d r
        readSubset k n d r
      else if word = "ELEMENT".toList then
        let r ← readElementType k s.rest
        readSubset k n d r
      else if word = "NOTATION".toList then
        let r ← readNotation k s.rest
        readSubset k n d r
      else s.unexpected
    | _ => s.unexpected

/-- What follows the name and the identifiers. -/
def readDoctypeEnd (k : NameClass) (d : Definitions) (s : Significant) :
    Except Failure (Definitions × Source) :=
  match s.token with
  | .close => .ok (d, s.rest)
  | .openBracket => do
    let (d, r) ← readSubset k (s.rest.length + 1) d s.rest
    let r ← expectClose k r
    pure (d, r)
  | _ => s.unexpected

/-- Reads a document type declaration after its keyword. -/
def Doctype.read (k : NameClass) (d : Definitions) (gs : Source) :
    Except Failure (Definitions × Source) := do
  let (_, r) ← expectAnyName k gs
  let s ← significant k r
  match s.token with
  | .name n =>
    match Outside.ofKeyword? n with
    | none => s.unexpected
    | some o =>
      let r ← expectIdentifiers k o s.rest
      let s ← significant k r
      readDoctypeEnd k { d with hasOutsideParts := true } s
  | _ => readDoctypeEnd k d s

end ContractDrift.Xml
