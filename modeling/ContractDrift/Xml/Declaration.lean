/-
The declaration at the start of a document.

`Declaration.parse` reads what stands between the target `xml` and the closing mark:
the version, then the encoding and the word on standing alone, both optional, in
this order.  A failure is the place of the first glyph that does not fit.
-/
import ContractDrift.Xml.Scan

namespace ContractDrift.Xml

/-- What a declaration says: the name of the encoding with what is left of the
declaration there, and whether the document stands alone. -/
structure Declaration where
  encoding : Option (List Char × Source)
  standalone : Option Bool
  deriving Repr, Inhabited

/-- One setting of a declaration: what is left at its name, its name, what is left at
its value, its value. -/
structure Setting where
  namePlace : Source
  name : List Char
  valuePlace : Source
  value : List Char
  deriving Repr, Inhabited

/-- Whether a character may stand in the value of a setting. -/
def isValueChar (c : Char) : Bool :=
  c.isAlphanum || c == '.' || c == '-' || c == '_'

/-- The value of a setting up to its closing quote. -/
def takeSettingValue (quote : Char) : (acc : List Char) → Source →
    Except Source (List Char × Source)
  | _, [] => .error []
  | acc, g :: r =>
    match g with
    | .char c =>
      if c = quote then .ok (acc.reverse, r)
      else if isValueChar c then takeSettingValue quote (c :: acc) r
      else .error (g :: r)
    | _ => .error (g :: r)

/-- The name of a setting up to a blank or an equals sign. -/
def takeSettingName : (acc : List Char) → Source → Except Source (List Char × Source)
  | _, [] => .error []
  | acc, g :: r =>
    match g with
    | .char c =>
      if c = '=' || isSpace c then .ok (acc.reverse, g :: r)
      else if c.toNat < 0x80 then takeSettingName (c :: acc) r
      else .error (g :: r)
    | _ => .error (g :: r)

/-- The next setting, after blanks; none where only blanks are left. -/
def takeSetting (gs : Source) : Except Source (Option Setting × Source) :=
  match gs with
  | [] => .ok (none, [])
  | g :: _ =>
    if !g.isSpace then .error gs
    else match skipBlanks gs with
      | [] => .ok (none, gs)
      | start => do
        let (name, r) ← takeSettingName [] start
        match skipBlanks r with
        | .char '=' :: r' =>
          if name.isEmpty then .error r
          else match skipBlanks r' with
            | .char q :: value =>
              if q = '"' ∨ q = '\'' then
                let (v, rest) ← takeSettingValue q [] value
                pure (some ⟨start, name, value, v⟩, rest)
              else .error (skipBlanks r')
            | r => .error r
        | r => .error r

/-- The word on standing alone, which must be the last setting. -/
def finishDeclaration (encoding : Option (List Char × Source)) (s : Setting) (rest : Source) :
    Except Source Declaration :=
  if s.name ≠ "standalone".toList then .error s.namePlace
  else
    let finish (b : Bool) : Except Source Declaration :=
      match skipBlanks rest with
      | [] => .ok ⟨encoding, some b⟩
      | r => .error r
    if s.value = "yes".toList then finish true
    else if s.value = "no".toList then finish false
    else .error s.valuePlace

/-- Reads the text of a declaration, from the glyph after its target on. -/
def Declaration.parse (gs : Source) : Except Source Declaration := do
  match ← takeSetting gs with
  | (none, _) => .error gs
  | (some version, r) =>
    if version.name ≠ "version".toList then .error version.namePlace
    else match ← takeSetting r with
      | (none, _) => pure ⟨none, none⟩
      | (some s, r) =>
        if s.name = "encoding".toList then
          match s.value with
          | [] => .error s.valuePlace
          | c :: _ =>
            if !c.isAlpha then .error s.valuePlace
            else
              let encoding := some (s.value, s.valuePlace)
              match ← takeSetting r with
              | (none, _) => pure ⟨encoding, none⟩
              | (some s, r) => finishDeclaration encoding s r
        else finishDeclaration none s r

end ContractDrift.Xml
