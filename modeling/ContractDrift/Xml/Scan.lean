/-
The markup of content: tags, references, comments, instructions and sections.

Each scanner takes what is left of a document after the characters that announce
the markup, and answers the markup with what is left after it.  It stops (`Stop`)
at the first glyph that cannot belong to the markup, at the end of the document, or
at a character that the end cuts short.

A name here is a name of namespaces: at most one colon divides it, and neither part
is empty.
-/
import ContractDrift.Xml.Glyph

namespace ContractDrift.Xml

/-- Why scanning stopped; `invalid` carries what is left at the offending glyph. -/
inductive Stop where
  | invalid (rest : Source)
  | unclosed
  | cut
  deriving Repr, DecidableEq, Inhabited

/-- The glyphs after the blanks at the front. -/
def skipBlanks (gs : Source) : Source := gs.dropWhile Glyph.isSpace

/-! ## Names -/

/-- The rest of a name: name characters up to the first other glyph, newest first. -/
def scanNameRest (k : NameClass) : (acc : List Char) → Source → Except Stop (List Char × Source)
  | _, [] => .error .unclosed
  | _, .cut :: _ => .error .cut
  | _, .bad :: r => .error (.invalid (.bad :: r))
  | acc, .char c :: r =>
    if k.continues c then scanNameRest k (c :: acc) r
    else if c.toNat < 0x80 then .ok (acc, .char c :: r)
    else .error (.invalid (.char c :: r))

/-- The first character of a name. -/
def scanNameStart (k : NameClass) : Source → Except Stop (Char × Source)
  | [] => .error .unclosed
  | .cut :: _ => .error .cut
  | .bad :: r => .error (.invalid (.bad :: r))
  | .char c :: r => if k.starts c then .ok (c, r) else .error (.invalid (.char c :: r))

/-- A name without a colon. -/
def scanName (k : NameClass) (gs : Source) : Except Stop (List Char × Source) := do
  let (c, r) ← scanNameStart k gs
  let (acc, r) ← scanNameRest k [c] r
  pure (acc.reverse, r)

/-- A name with at most one colon inside. -/
def scanQualifiedName (k : NameClass) (gs : Source) : Except Stop (List Char × Source) := do
  let (c, r) ← scanNameStart k gs
  let (acc, r) ← scanNameRest k [c] r
  match r with
  | .char ':' :: r' =>
    let (c, r') ← scanNameStart k r'
    let (acc, r') ← scanNameRest k (c :: ':' :: acc) r'
    match r' with
    | .char ':' :: _ => .error (.invalid r')
    | _ => pure (acc.reverse, r')
  | _ => pure (acc.reverse, r)

/-! ## References -/

/-- A reference: to a character by its number, or to an entity by its name. -/
inductive Reference where
  | character (number : Nat)
  | entity (name : List Char)
  deriving Repr, DecidableEq, Inhabited

private def isDecimal (c : Char) : Bool := '0' ≤ c && c ≤ '9'

/-- The digits of a character number up to the semicolon. -/
def scanDigits (digit? : Char → Option Nat) (base : Nat) :
    (value : Nat) → (first : Bool) → Source → Except Stop (Nat × Source)
  | _, _, [] => .error .unclosed
  | value, first, g :: r =>
    match g with
    | .char c =>
      match digit? c with
      | some d => scanDigits digit? base (value * base + d) false r
      | none =>
        if c = ';' ∧ first = false then .ok (value, r) else .error (.invalid (g :: r))
    | _ => .error (.invalid (g :: r))

private def decimalDigit? (c : Char) : Option Nat :=
  if isDecimal c then some (c.toNat - 0x30) else none

/-- A reference, after its ampersand. -/
def scanReference (k : NameClass) (gs : Source) : Except Stop (Reference × Source) :=
  match gs with
  | .char '#' :: .char 'x' :: r => do
    let (n, r) ← scanDigits Text.hexValue? 16 0 true r
    pure (.character n, r)
  | .char '#' :: r => do
    let (n, r) ← scanDigits decimalDigit? 10 0 true r
    pure (.character n, r)
  | _ => do
    let (name, r) ← scanName k gs
    match r with
    | .char ';' :: r => pure (.entity name, r)
    | _ => .error (.invalid r)

/-- The character of a number, if a document may hold it. -/
def characterOf? (n : Nat) : Option Char :=
  if isXmlChar n then some (Char.ofNat n) else none

/-- The entities that need no declaration. -/
def predefined? : List Char → Option Char
  | ['l', 't'] => some '<'
  | ['g', 't'] => some '>'
  | ['a', 'm', 'p'] => some '&'
  | ['a', 'p', 'o', 's'] => some '\''
  | ['q', 'u', 'o', 't'] => some '"'
  | _ => none

/-! ## Tags -/

/-- An attribute as it stands in a tag: what is left of the document at its name, the
name, the glyphs between the quotes, and what is left at the closing quote. -/
structure WrittenAttribute where
  place : Source
  name : List Char
  value : Source
  after : Source
  deriving Repr, DecidableEq, Inhabited

/-- A start tag as it stands in a document. -/
structure StartTag where
  name : List Char
  attributes : List WrittenAttribute
  isEmpty : Bool
  deriving Repr, DecidableEq, Inhabited

/-- The value of an attribute and what is left at the closing quote. -/
def scanValue (k : NameClass) (quote : Char) :
    (fuel : Nat) → (acc : List Glyph) → Source → Except Stop (Source × Source)
  | 0, _, _ => .error .unclosed
  | _ + 1, _, [] => .error .unclosed
  | n + 1, acc, g :: r =>
    match g with
    | .bad => .error (.invalid (g :: r))
    | .cut => .error .cut
    | .char c =>
      if c = quote then .ok (acc.reverse, g :: r)
      else if c = '<' then .error (.invalid (g :: r))
      else if c = '&' then do
        let (_, rest) ← scanReference k r
        scanValue k quote n (((g :: r).take (r.length + 1 - rest.length)).reverse ++ acc) rest
      else scanValue k quote n (g :: acc) r

/-- The quote that opens a value. -/
def scanQuote : Source → Except Stop (Char × Source)
  | [] => .error .unclosed
  | .char '"' :: r => .ok ('"', r)
  | .char '\'' :: r => .ok ('\'', r)
  | r => .error (.invalid r)

/-- One attribute, from its name to its closing quote. -/
def scanAttribute (k : NameClass) (gs : Source) : Except Stop (WrittenAttribute × Source) := do
  let (name, r) ← scanQualifiedName k gs
  match skipBlanks r with
  | [] => .error .unclosed
  | .char '=' :: r =>
    let (quote, r) ← scanQuote (skipBlanks r)
    let (value, r) ← scanValue k quote (r.length + 1) [] r
    pure (⟨gs, name, value, r⟩, r.drop 1)
  | r => .error (.invalid r)

/-- The end of a tag without content, after its slash. -/
def scanEmptyEnd : Source → Except Stop Source
  | [] => .error .unclosed
  | .char '>' :: r => .ok r
  | r => .error (.invalid r)

/-- The attributes of a tag and its end, after the tag's name or an attribute. -/
def scanTagRest (k : NameClass) (name : List Char) :
    (fuel : Nat) → (acc : List WrittenAttribute) → Source → Except Stop (StartTag × Source)
  | 0, _, _ => .error .unclosed
  | n + 1, acc, gs =>
    match gs with
    | [] => .error .unclosed
    | .char '>' :: r => .ok (⟨name, acc.reverse, false⟩, r)
    | .char '/' :: r => do
      let r ← scanEmptyEnd r
      pure (⟨name, acc.reverse, true⟩, r)
    | g :: _ =>
      if g.isSpace then
        match skipBlanks gs with
        | [] => .error .unclosed
        | .char '>' :: r => .ok (⟨name, acc.reverse, false⟩, r)
        | .char '/' :: r => do
          let r ← scanEmptyEnd r
          pure (⟨name, acc.reverse, true⟩, r)
        | r => do
          let (a, r) ← scanAttribute k r
          scanTagRest k name n (a :: acc) r
      else .error (.invalid gs)

/-- A start tag, after its opening bracket. -/
def scanStartTag (k : NameClass) (gs : Source) : Except Stop (StartTag × Source) := do
  let (name, r) ← scanQualifiedName k gs
  scanTagRest k name (r.length + 1) [] r

/-- The name in an end tag, with any colons. -/
def scanEndName (k : NameClass) : (acc : List Char) → Source → Except Stop (List Char × Source)
  | _, [] => .error .unclosed
  | _, .cut :: _ => .error .cut
  | _, .bad :: r => .error (.invalid (.bad :: r))
  | acc, .char c :: r =>
    if k.continues c || c == ':' then scanEndName k (c :: acc) r
    else if c.toNat < 0x80 then .ok (acc.reverse, .char c :: r)
    else .error (.invalid (.char c :: r))

/-- An end tag, after its slash. -/
def scanEndTag (k : NameClass) (gs : Source) : Except Stop (List Char × Source) := do
  let (c, r) ← scanNameStart k gs
  let (name, r) ← scanEndName k [c] r
  match skipBlanks r with
  | [] => .error .unclosed
  | .char '>' :: r => pure (name, r)
  | r => .error (.invalid r)

/-! ## Comments, instructions and sections -/

/-- A comment, after its first hyphens. -/
def scanCommentRest : Source → Except Stop Source
  | [] => .error .unclosed
  | .bad :: r => .error (.invalid (.bad :: r))
  | .cut :: _ => .error .cut
  | .char '-' :: [] => .error .unclosed
  | .char '-' :: .char '-' :: [] => .error .unclosed
  | .char '-' :: .char '-' :: .char '>' :: r => .ok r
  | .char '-' :: .char '-' :: r => .error (.invalid r)
  | .char _ :: r => scanCommentRest r

/-- A comment, after its exclamation mark and first hyphen. -/
def scanComment : Source → Except Stop Source
  | [] => .error .unclosed
  | .char '-' :: r => scanCommentRest r
  | r => .error (.invalid r)

/-- What an instruction is: the declaration of the document, or any other. -/
inductive InstructionKind where
  | declaration
  | other
  deriving Repr, DecidableEq, Inhabited

/-- The kind of an instruction with the given target; the name of declarations is
reserved in every other case. -/
def instructionKind? (target : List Char) : Option InstructionKind :=
  if target = ['x', 'm', 'l'] then some .declaration
  else if target.map Char.toLower = ['x', 'm', 'l'] then none
  else some .other

/-- The text of an instruction up to its end, newest first. -/
def scanInstructionText : (acc : Source) → Source → Except Stop (Source × Source)
  | _, [] => .error .unclosed
  | _, .bad :: r => .error (.invalid (.bad :: r))
  | _, .cut :: _ => .error .cut
  | _, .char '?' :: [] => .error .unclosed
  | acc, .char '?' :: .char '>' :: r => .ok (acc, r)
  | acc, .char c :: r => scanInstructionText (.char c :: acc) r

/-- An instruction, after its question mark: its kind, its text from the blank after
the target on, and what is left. -/
def scanInstruction (k : NameClass) (gs : Source) :
    Except Stop (InstructionKind × Source × Source) := do
  let (target, r) ← scanName k gs
  match r with
  | .char c :: r' =>
    if isSpace c || c == '?' then
      match instructionKind? target with
      | none => .error (.invalid r)
      | some kind =>
        if c == '?' then
          match r' with
          | [] => .error .unclosed
          | .char '>' :: r'' => pure (kind, [], r'')
          | _ => .error (.invalid r')
        else
          let (text, rest) ← scanInstructionText [] r'
          pure (kind, .char c :: text.reverse, rest)
    else .error (.invalid r)
  | _ => .error (.invalid r)

private def cdataWord : List Char := "CDATA[".toList

private def matchWord : List Char → Source → Except Stop Source
  | [], gs => .ok gs
  | _ :: _, [] => .error .unclosed
  | w :: ws, g :: r => if g = .char w then matchWord ws r else .error (.invalid (g :: r))

/-- The announcement of a section of character data, after its first bracket. -/
def scanSectionStart (gs : Source) : Except Stop Source :=
  if gs.length < cdataWord.length then .error .unclosed else matchWord cdataWord gs

/-! ## Pieces of content -/

/-- A piece of content. -/
inductive Piece where
  | start (tag : StartTag)
  | finish (name : List Char)
  | data (cs : List Char)
  | reference (r : Reference)
  | sectionStart
  | comment
  | instruction (kind : InstructionKind)
  deriving Repr, DecidableEq, Inhabited

/-- What stands at the front of content: a piece with what is left, the end, a
carriage return or bracket that only the end follows, or a reason to stop. -/
inductive PieceStep where
  | piece (p : Piece) (rest : Source)
  | finished
  | lastReturn
  | lastBracket
  | stopped (s : Stop)

/-- Markup that begins with an opening bracket, after that bracket. -/
def scanMarkup (k : NameClass) (gs : Source) : Except Stop (Piece × Source) :=
  match gs with
  | .char '!' :: [] => .error .unclosed
  | .char '!' :: .char '-' :: r => do
    let r ← scanComment r
    pure (.comment, r)
  | .char '!' :: .char '[' :: r => do
    let r ← scanSectionStart r
    pure (.sectionStart, r)
  | .char '!' :: r => .error (.invalid r)
  | .char '?' :: r => do
    let (kind, _, r) ← scanInstruction k r
    pure (.instruction kind, r)
  | .char '/' :: r => do
    let (name, r) ← scanEndTag k r
    pure (.finish name, r)
  | _ => do
    let (tag, r) ← scanStartTag k gs
    pure (.start tag, r)

/-- Character data up to the first markup, line end or glyph that is no character;
two brackets that stand before a closing bracket are an error noticed there. -/
def scanData : (acc : List Char) → Source → Except Stop (List Char × Source)
  | acc, [] => .ok (acc.reverse, [])
  | _, .char ']' :: .char ']' :: .char '>' :: r => .error (.invalid (.char '>' :: r))
  | acc, [.char ']', .char ']'] => .ok (acc.reverse, [.char ']', .char ']'])
  | acc, [.char ']'] => .ok (acc.reverse, [.char ']'])
  | acc, .char c :: r =>
    if c = '<' ∨ c = '&' ∨ c = '\r' ∨ c = '\n' then .ok (acc.reverse, .char c :: r)
    else scanData (c :: acc) r
  | acc, g :: r => .ok (acc.reverse, g :: r)

/-- The piece at the front of content. -/
def nextPiece (k : NameClass) (gs : Source) : PieceStep :=
  match gs with
  | [] => .finished
  | .char '<' :: r =>
    match scanMarkup k r with
    | .ok (p, rest) => .piece p rest
    | .error s => .stopped s
  | .char '&' :: r =>
    match scanReference k r with
    | .ok (ref, rest) => .piece (.reference ref) rest
    | .error s => .stopped s
  | .char '\r' :: [] => .lastReturn
  | .char '\r' :: .char '\n' :: r => .piece (.data ['\n']) r
  | .char '\r' :: r => .piece (.data ['\n']) r
  | .char '\n' :: r => .piece (.data ['\n']) r
  | [.char ']'] => .lastBracket
  | [.char ']', .char ']'] => .lastBracket
  | .bad :: _ => .stopped (.invalid gs)
  | .cut :: _ => .stopped .cut
  | _ =>
    match scanData [] gs with
    | .ok (cs, rest) => .piece (.data cs) rest
    | .error s => .stopped s

/-- What stands at the front of a section of character data. -/
inductive SectionStep where
  | data (cs : List Char) (rest : Source)
  | closed (rest : Source)
  | unclosed
  | stopped (s : Stop)

/-- Character data of a section up to a bracket, a line end or a glyph that is no
character. -/
def scanSectionData : (acc : List Char) → Source → List Char × Source
  | acc, .char c :: r =>
    if c = ']' ∨ c = '\r' ∨ c = '\n' then (acc.reverse, .char c :: r)
    else scanSectionData (c :: acc) r
  | acc, gs => (acc.reverse, gs)

/-- The piece at the front of a section of character data. -/
def nextSectionPiece (gs : Source) : SectionStep :=
  match gs with
  | [] => .unclosed
  | .char ']' :: .char ']' :: .char '>' :: r => .closed r
  | [.char ']'] => .unclosed
  | [.char ']', .char ']'] => .unclosed
  | .char ']' :: r => let (cs, rest) := scanSectionData [']'] r; .data cs rest
  | [.char '\r'] => .unclosed
  | .char '\r' :: .char '\n' :: r => .data ['\n'] r
  | .char '\r' :: r => .data ['\n'] r
  | .char '\n' :: r => .data ['\n'] r
  | .bad :: _ => .stopped (.invalid gs)
  | .cut :: _ => .stopped .cut
  | _ => let (cs, rest) := scanSectionData [] gs; .data cs rest

end ContractDrift.Xml
