/-
Content: from the root's start tag to its end tag.

`Content.read` takes a document at the root's start tag, and answers the finished
root with what is left after its end tag.  Each fault is reported at a place of the
document itself: what goes wrong inside the text of an entity is reported at the
reference to it.

Design notes: `walk` goes over the pieces of one text, the document or an entity, and
hands the text of an entity that it meets to a function; `walkEntity` ties the knot
with one level for each declared entity.  The elements that an entity opens must be
closed in it: `floor` is how many were open where its text began.
-/
import ContractDrift.Xml.AttributeValue
import ContractDrift.Xml.Element

namespace ContractDrift.Xml

/-- A failure while content is read: a fault, and what is left of the document at its
place. -/
structure Failure where
  fault : Fault
  place : Source
  deriving Repr, Inhabited

/-- The text that is walked over. -/
structure TextContext where
  names : NameClass
  definitions : Definitions
  /-- The place of the outermost reference, inside the text of an entity. -/
  outerPlace : Option Source
  /-- The entities inside whose text this text stands. -/
  opened : List (List Char)
  /-- How many elements were open at the start of the text. -/
  floor : Nat

/-- Whether the text is the document itself. -/
def TextContext.isOuter (t : TextContext) : Bool := t.outerPlace.isNone

/-- A failure at a place of the text. -/
def TextContext.fail {α : Type} (t : TextContext) (f : Fault) (place : Source) :
    Except Failure α :=
  .error ⟨f, t.outerPlace.getD place⟩

/-- A failure of scanning at a token that starts at `token`. -/
def TextContext.stop {α : Type} (t : TextContext) (token : Source) : Stop → Except Failure α
  | .invalid rest => t.fail .invalidToken rest
  | .unclosed => t.fail .unclosedToken token
  | .cut => t.fail .partialCharacter token

/-! ## Start tags -/

/-- The attributes of a tag while they are taken in: those with a value, in order, the
names seen, and the bindings. -/
structure TakenAttributes where
  values : List (List Char × List Char)
  seen : List (List Char)
  scope : Scope

/-- Takes in one attribute: a declaration of a prefix, or a value. -/
def TakenAttributes.add (a : TakenAttributes) (name value : List Char) :
    Except Fault TakenAttributes :=
  match declaredPrefix? name with
  | some pfx => do
    let scope ← a.scope.bind pfx value
    pure { a with scope, seen := name :: a.seen }
  | none => .ok { a with values := a.values ++ [(name, value)], seen := name :: a.seen }

/-- Takes in the attributes that are written in a tag at `token`. -/
def takeWritten (t : TextContext) (token : Source) (element : List Char) :
    List WrittenAttribute → TakenAttributes → Except Failure TakenAttributes
  | [], a => .ok a
  | w :: ws, a => do
    if a.seen.contains w.name then t.fail .duplicateAttribute w.place
    else
      let plain := t.definitions.isCharacterData element w.name
      match normalize t.names t.definitions t.opened plain t.isOuter w.value w.after with
      | .error m => t.fail m.fault (m.place.getD token)
      | .ok value =>
        match a.add w.name value with
        | .error f => t.fail f token
        | .ok a => takeWritten t token element ws a

/-- Takes in the declared attributes that have a value and are not written. -/
def takeDeclared (t : TextContext) (token : Source) :
    List DeclaredAttribute → TakenAttributes → Except Failure TakenAttributes
  | [], a => .ok a
  | d :: ds, a =>
    match d.default with
    | none => takeDeclared t token ds a
    | some value =>
      if a.seen.contains d.name then takeDeclared t token ds a
      else match a.add d.name value with
        | .error f => t.fail f token
        | .ok a => takeDeclared t token ds a

/-- The attributes with their expanded names; two with one expanded name are an error. -/
def expandAttributes (scope : Scope) :
    (taken : List String) → List (List Char × List Char) →
      Except Fault (List (String × String))
  | _, [] => .ok []
  | taken, (name, value) :: r =>
    match scope.expandAttribute? name with
    | none => .error .unboundPrefix
    | some full =>
      if taken.contains full then .error .duplicateAttribute
      else do
        let rest ← expandAttributes scope (full :: taken) r
        pure ((full, String.ofList value) :: rest)

/-- Opens the element of a start tag. -/
def openElement (t : TextContext) (token : Source) (tag : StartTag) (b : Builder) :
    Except Failure Builder := do
  let a ← takeWritten t token tag.name tag.attributes ⟨[], [], b.scope⟩
  let a ← takeDeclared t token (t.definitions.attributesOf tag.name) a
  match expandAttributes a.scope [] a.values with
  | .error f => t.fail f token
  | .ok attributes =>
    match a.scope.expandElement? tag.name with
    | none => t.fail .unboundPrefix token
    | some name => pure (b.start tag.name name attributes a.scope)

/-! ## Pieces -/

/-- Closes the innermost element by an end tag with its name. -/
def closeElement (t : TextContext) (token : Source) (name : List Char) (b : Builder) :
    Except Failure Builder :=
  if b.depth ≤ t.floor then t.fail .asynchronousEntity token
  else match b.opened with
    | [] => t.fail .asynchronousEntity token
    | e :: _ =>
      if e.writtenName = name then .ok b.finish else t.fail .mismatchedTag (token.drop 2)

/-- Reads a section of character data; `token` is what is left at the current piece. -/
def walkSection (t : TextContext) : (fuel : Nat) → Builder → Source →
    Except Failure (Builder × Source)
  | 0, _, gs => t.fail .unclosedCdata gs
  | n + 1, b, gs =>
    match nextSectionPiece gs with
    | .data cs rest => walkSection t n (b.data cs) rest
    | .closed rest => .ok (b, rest)
    | .unclosed => t.fail .unclosedCdata gs
    | .stopped s => t.stop gs s

/-- The context in which the text of an entity is walked over. -/
def entityContext (t : TextContext) (token : Source) (name : List Char) (b : Builder) :
    TextContext :=
  { t with
    names := .plain
    outerPlace := some (t.outerPlace.getD token)
    opened := name :: t.opened
    floor := b.depth }

/-- The first characters of a text that has at most so many octets. -/
private def withinOctets : (room : Nat) → List Char → List Char
  | _, [] => []
  | room, c :: r =>
    let n := (Text.utf8Char c).length
    if n ≤ room then c :: withinOctets (room - n) r else []

/-- A reference to an entity, as a message shows it. -/
def shownReference (name : List Char) : String :=
  String.ofList (withinOctets 100 ('&' :: name ++ [';']))

/-- Walks over the pieces of a text, up to its end or to the end of the root. -/
def walk (expand : TextContext → List Char → Builder → Except Failure Builder)
    (t : TextContext) : (fuel : Nat) → Builder → Source → Except Failure (Builder × Source)
  | 0, _, gs => t.fail .noElement gs
  | n + 1, b, gs =>
    match nextPiece t.names gs with
    | .stopped s => t.stop gs s
    | .finished =>
      if t.isOuter then t.fail .noElement gs
      else if b.depth = t.floor then .ok (b, []) else t.fail .asynchronousEntity gs
    | .lastReturn =>
      if t.isOuter then t.fail .noElement gs
      else if b.depth = t.floor then .ok (b.data ['\n'], []) else t.fail .asynchronousEntity []
    | .lastBracket =>
      if t.isOuter then t.fail .noElement []
      else if b.depth = t.floor then .ok (b.data (chars gs), [])
      else t.fail .asynchronousEntity []
    | .piece p rest =>
      match p with
      | .data cs => walk expand t n (b.data cs) rest
      | .comment => walk expand t n b rest
      | .instruction .declaration => t.fail .misplacedDeclaration gs
      | .instruction .other => walk expand t n b rest
      | .sectionStart => do
        let (b, rest) ← walkSection t (rest.length + 1) b rest
        walk expand t n b rest
      | .start tag => do
        let b ← openElement t gs tag b
        let b := if tag.isEmpty then b.finish else b
        if b.depth = 0 then .ok (b, rest) else walk expand t n b rest
      | .finish name => do
        let b ← closeElement t gs name b
        if b.depth = 0 then .ok (b, rest) else walk expand t n b rest
      | .reference (.character number) =>
        match characterOf? number with
        | none => t.fail .invalidCharacterNumber gs
        | some c => walk expand t n (b.data [c]) rest
      | .reference (.entity name) =>
        match predefined? name with
        | some c => walk expand t n (b.data [c]) rest
        | none =>
          match t.definitions.entity? name with
          | none =>
            if t.definitions.mustDeclare then t.fail .undefinedEntity gs
            else t.fail (.unresolvedReference (shownReference name)) gs
          | some e =>
            if t.opened.contains name then t.fail .recursiveEntity gs
            else match e with
              | .binary => t.fail .binaryEntity gs
              | .external => t.fail (.unresolvedReference (shownReference name)) gs
              | .internal text => do
                let b ← expand (entityContext t gs name b) text b
                walk expand t n b rest

/-- Walks over the text of an entity, with at most `depth` entities inside one
another. -/
def walkEntity : (depth : Nat) → TextContext → List Char → Builder → Except Failure Builder
  | 0, t, _, _ => t.fail .recursiveEntity []
  | n + 1, t, text, b => do
    let (b, _) ← walk (walkEntity n) t (text.length + 1) b (glyphs text)
    pure b

/-- Reads the content of a document from the root's start tag on. -/
def Content.read (k : NameClass) (d : Definitions) (gs : Source) :
    Except Failure (Builder × Source) :=
  walk (walkEntity (d.entities.length + 1)) ⟨k, d, none, [], 0⟩ (gs.length + 1)
    Builder.initial gs

end ContractDrift.Xml
