/-
The tokens of a prolog.

`nextPrologToken` reads the token at the front of what is left of a prolog; the same
tokens stand after the root, where only blanks, comments and instructions are
allowed.
-/
import ContractDrift.Xml.Scan

namespace ContractDrift.Xml

/-- A token of a prolog. -/
inductive PrologToken where
  | blanks
  /-- The glyphs between two quotes, and what is left at the closing one. -/
  | literal (body after : Source)
  /-- An instruction: its kind, its text from the blank on, and what is left at its end. -/
  | instruction (kind : InstructionKind) (text after : Source)
  | comment
  /-- The opening of a declaration with its keyword. -/
  | declaration (keyword : List Char)
  | sectionOpen
  | sectionClose
  | close
  | name (n : List Char)
  | prefixedName (n : List Char)
  | nameToken (n : List Char)
  /-- A name with a mark that says how often it occurs. -/
  | markedName (n : List Char)
  | numberSignName (n : List Char)
  | percent
  | parameterReference
  | openBracket
  | closeBracket
  | openParen
  /-- A closing parenthesis with its mark, if it has one. -/
  | closeParen (mark : Option Char)
  | bar
  | comma
  /-- The opening bracket of the root. -/
  | rootStart
  deriving Repr, Inhabited

/-- Whether a character is an ASCII letter or the underscore. -/
def asciiLetter (c : Char) : Bool := c.isAlpha || c == '_'

/-- The keyword of a declaration and what is left. -/
def scanKeyword : (acc : List Char) → Source → Except Stop (PrologToken × Source)
  | _, [] => .error .unclosed
  | acc, .char '%' :: r =>
    match r with
    | [] => .error .unclosed
    | g :: _ =>
      if g.isSpace || g == .char '%' then .error (.invalid (.char '%' :: r))
      else .ok (.declaration acc.reverse, .char '%' :: r)
  | acc, g :: r =>
    if g.isSpace then .ok (.declaration acc.reverse, g :: r)
    else match g with
      | .char c => if asciiLetter c then scanKeyword (c :: acc) r else .error (.invalid (g :: r))
      | _ => .error (.invalid (g :: r))

/-- A declaration or a comment, after its exclamation mark. -/
def scanDeclarationOpen : Source → Except Stop (PrologToken × Source)
  | [] => .error .unclosed
  | .char '-' :: r => do
    let r ← scanComment r
    pure (.comment, r)
  | .char '[' :: r => .ok (.sectionOpen, r)
  | .char c :: r => if asciiLetter c then scanKeyword [c] r else .error (.invalid (.char c :: r))
  | r => .error (.invalid r)

/-- What a percent sign begins. -/
def scanPercent (k : NameClass) (gs : Source) : Except Stop (PrologToken × Source) :=
  match gs with
  | [] => .error .unclosed
  | g :: _ =>
    if g.isSpace || g == .char '%' then .ok (.percent, gs)
    else do
      let (_, r) ← scanName k gs
      match r with
      | .char ';' :: r => pure (.parameterReference, r)
      | _ => .error (.invalid r)

/-- The characters of a name up to the first other glyph or the end. -/
def takeNameChars (k : NameClass) : (acc : List Char) → Source → Except Stop (List Char × Source)
  | acc, [] => .ok (acc, [])
  | _, .cut :: _ => .error .cut
  | _, .bad :: r => .error (.invalid (.bad :: r))
  | acc, .char c :: r =>
    if k.continues c then takeNameChars k (c :: acc) r
    else if c.toNat < 0x80 then .ok (acc, .char c :: r)
    else .error (.invalid (.char c :: r))

/-- Whether a character may follow a name in a prolog. -/
def endsName (c : Char) : Bool := isSpace c || ['>', ')', ',', '|', '[', '%'].contains c

/-- A name that a number sign announces. -/
def scanNumberSignName (k : NameClass) (gs : Source) : Except Stop (PrologToken × Source) := do
  let (c, r) ← scanNameStart k gs
  let (acc, r) ← takeNameChars k [c] r
  match r with
  | [] => pure (.numberSignName acc.reverse, [])
  | .char c :: _ =>
    if isSpace c || [')', '>', '%', '|'].contains c then pure (.numberSignName acc.reverse, r)
    else .error (.invalid r)
  | _ => .error (.invalid r)

/-- What kind of name has been read so far. -/
inductive NameShape where
  | plain
  | prefixed
  | token
  deriving Repr, DecidableEq

/-- The token of a name of the given shape. -/
def NameShape.toToken (s : NameShape) (n : List Char) : PrologToken :=
  match s with
  | .plain => .name n
  | .prefixed => .prefixedName n
  | .token => .nameToken n

/-- The rest of a name: its characters, colons and mark. -/
def scanPrologName (k : NameClass) :
    (fuel : Nat) → NameShape → (acc : List Char) → Source → Except Stop (PrologToken × Source)
  | 0, s, acc, gs => .ok (s.toToken acc.reverse, gs)
  | n + 1, s, acc, gs => do
    let (acc, r) ← takeNameChars k acc gs
    match r with
    | [] => pure (s.toToken acc.reverse, [])
    | .char ':' :: r' =>
      match s with
      | .plain =>
        match r' with
        | [] => .error .unclosed
        | .cut :: _ => .error .cut
        | .bad :: _ => .error (.invalid r')
        | .char c :: r'' =>
          if k.continues c then scanPrologName k n .prefixed (c :: ':' :: acc) r''
          else if c.toNat < 0x80 then scanPrologName k n .token (':' :: acc) r'
          else .error (.invalid r')
      | _ => scanPrologName k n .token (':' :: acc) r'
    | .char c :: r' =>
      if endsName c then pure (s.toToken acc.reverse, r)
      else if c = '+' ∨ c = '*' ∨ c = '?' then
        if s = .token then .error (.invalid r) else pure (.markedName acc.reverse, r')
      else .error (.invalid r)
    | _ => .error (.invalid r)

/-- The text between two quotes. -/
def scanLiteral (quote : Char) : (acc : List Glyph) → Source → Except Stop (PrologToken × Source)
  | _, [] => .error .unclosed
  | _, .bad :: r => .error (.invalid (.bad :: r))
  | _, .cut :: _ => .error .cut
  | acc, .char c :: r =>
    if c = quote then
      match r with
      | [] => .ok (.literal acc.reverse (.char c :: r), [])
      | g :: _ =>
        if g.isSpace || [.char '>', .char '%', .char '['].contains g then
          .ok (.literal acc.reverse (.char c :: r), r)
        else .error (.invalid r)
    else scanLiteral quote (.char c :: acc) r

/-- What an opening bracket begins. -/
def scanPrologMarkup (k : NameClass) (whole : Source) : Source → Except Stop (PrologToken × Source)
  | [] => .error .unclosed
  | .char '!' :: r => scanDeclarationOpen r
  | .char '?' :: r => do
    let (kind, text, rest) ← scanInstruction k r
    pure (.instruction kind text (r.drop (r.length - rest.length - 2)), rest)
  | .char c :: r =>
    if asciiLetter c || 0x80 ≤ c.toNat then .ok (.rootStart, whole)
    else .error (.invalid (.char c :: r))
  | .cut :: _ => .ok (.rootStart, whole)
  | r => .error (.invalid r)

/-- What a closing bracket begins. -/
def scanCloseBracket : Source → Except Stop (PrologToken × Source)
  | .char ']' :: [] => .error .unclosed
  | .char ']' :: .char '>' :: r => .ok (.sectionClose, r)
  | r => .ok (.closeBracket, r)

/-- What a closing parenthesis begins. -/
def scanCloseParen : Source → Except Stop (PrologToken × Source)
  | [] => .ok (.closeParen none, [])
  | .char c :: r =>
    if c = '*' ∨ c = '?' ∨ c = '+' then .ok (.closeParen (some c), r)
    else if isSpace c || ['>', ',', '|', ')'].contains c then .ok (.closeParen none, .char c :: r)
    else .error (.invalid (.char c :: r))
  | r => .error (.invalid r)

/-- The token at the front of a prolog; nothing at the end. -/
def nextPrologToken (k : NameClass) (gs : Source) :
    Except Stop (Option (PrologToken × Source)) :=
  match gs with
  | [] => .ok none
  | .cut :: _ => .error .cut
  | .bad :: _ => .error (.invalid gs)
  | .char c :: r =>
    if isSpace c then .ok (some (.blanks, skipBlanks r))
    else match c with
      | '"' => some <$> scanLiteral '"' [] r
      | '\'' => some <$> scanLiteral '\'' [] r
      | '<' => some <$> scanPrologMarkup k gs r
      | '%' => some <$> scanPercent k r
      | ',' => .ok (some (.comma, r))
      | '[' => .ok (some (.openBracket, r))
      | ']' => some <$> scanCloseBracket r
      | '(' => .ok (some (.openParen, r))
      | ')' => some <$> scanCloseParen r
      | '|' => .ok (some (.bar, r))
      | '>' => .ok (some (.close, r))
      | '#' => some <$> scanNumberSignName k r
      | _ =>
        if k.starts c then some <$> scanPrologName k (r.length + 1) .plain [c] r
        else if k.continues c || c == ':' then
          some <$> scanPrologName k (r.length + 1) .token [c] r
        else .error (.invalid gs)

end ContractDrift.Xml
