/-
Values of attributes.

A written value stands for its text after references are replaced and line ends and
tabs have become spaces.  The value of an attribute that is not plain character data
also loses the spaces at both ends and all but one of each run.

Design notes: the text of an entity is replaced in turn, so `normalize` is written
in two steps.  `replaceWith` walks over a value and hands the text of an entity to
the function it is given; `replaceWithin` ties the knot with one level of nesting
for each declared entity, which is enough because an entity may not refer to itself.
-/
import ContractDrift.Xml.Definitions
import ContractDrift.Xml.Scan
import ContractDrift.Xml.Fault

namespace ContractDrift.Xml

/-- A fault with what is left of the document at its place; `none` leaves the place to
whoever reads the surrounding markup. -/
structure Mishap where
  fault : Fault
  place : Option Source
  deriving Repr, Inhabited

/-- The characters of a value so far, newest first, and how they are collected. -/
structure ValueText where
  acc : List Char
  isCharacterData : Bool
  deriving Repr, Inhabited

namespace ValueText

/-- Adds a character as it is. -/
def push (v : ValueText) (c : Char) : ValueText := { v with acc := c :: v.acc }

/-- Adds a space, which outside plain character data is dropped at the start and
after another space. -/
def pushSpace (v : ValueText) : ValueText :=
  if v.isCharacterData then v.push ' '
  else match v.acc with
    | [] => v
    | ' ' :: _ => v
    | _ => v.push ' '

/-- Adds a character given by its number. -/
def pushNumbered (v : ValueText) (c : Char) : ValueText :=
  if c = ' ' then v.pushSpace else v.push c

/-- The collected text. -/
def text (v : ValueText) : List Char :=
  match v.isCharacterData, v.acc with
  | false, ' ' :: r => r.reverse
  | _, acc => acc.reverse

end ValueText

/-- Adds what the glyphs of a value stand for.  `expand` adds the text of an entity,
`opened` names the entities that the value stands in, `after` is what follows the
value, and `isOuter` tells whether its glyphs stand in the document itself. -/
def replaceWith (k : NameClass) (d : Definitions) (after : Source) (isOuter : Bool)
    (expand : List Char → List (List Char) → ValueText → Except Mishap ValueText)
    (opened : List (List Char)) :
    (fuel : Nat) → ValueText → Source → Except Mishap ValueText
  | 0, v, _ => .ok v
  | _ + 1, v, [] => .ok v
  | n + 1, v, g :: r =>
    let here (gs : Source) : Option Source := if isOuter then some (gs ++ after) else none
    match g with
    | .char '&' =>
      match scanReference k r with
      | .error (.invalid rest) => .error ⟨.invalidToken, here rest⟩
      | .error _ => .error ⟨.invalidToken, here (g :: r)⟩
      | .ok (.character number, rest) =>
        match characterOf? number with
        | none => .error ⟨.invalidCharacterNumber, here (g :: r)⟩
        | some c => replaceWith k d after isOuter expand opened n (v.pushNumbered c) rest
      | .ok (.entity name, rest) =>
        match predefined? name with
        | some c => replaceWith k d after isOuter expand opened n (v.push c) rest
        | none =>
          match d.entity? name with
          | none =>
            if d.mustDeclare then .error ⟨.undefinedEntity, none⟩
            else replaceWith k d after isOuter expand opened n v rest
          | some e =>
            if opened.contains name then .error ⟨.recursiveEntity, here (g :: r)⟩
            else match e with
              | .binary => .error ⟨.binaryEntity, here (g :: r)⟩
              | .external => .error ⟨.externalEntityInAttribute, here (g :: r)⟩
              | .internal text => do
                let v ← expand text (name :: opened) v
                replaceWith k d after isOuter expand opened n v rest
    | .char '<' => .error ⟨.invalidToken, here (g :: r)⟩
    | .char '\r' =>
      match r with
      | .char '\n' :: r' => replaceWith k d after isOuter expand opened n v.pushSpace r'
      | _ => replaceWith k d after isOuter expand opened n v.pushSpace r
    | .char c =>
      if c = ' ' ∨ c = '\n' ∨ c = '\t' then
        replaceWith k d after isOuter expand opened n v.pushSpace r
      else replaceWith k d after isOuter expand opened n (v.push c) r
    | _ => .error ⟨.invalidToken, here (g :: r)⟩

/-- Adds what the text of an entity stands for, with at most `depth` entities inside
one another. -/
def replaceWithin (d : Definitions) :
    (depth : Nat) → List Char → List (List Char) → ValueText → Except Mishap ValueText
  | 0, _, _, _ => .error ⟨.recursiveEntity, none⟩
  | n + 1, text, opened, v =>
    replaceWith .plain d [] false (replaceWithin d n) opened (text.length + 1) v (glyphs text)

/-- The text that a written value stands for.  `opened` names the entities inside
whose text the value stands and `after` is what follows the value. -/
def normalize (k : NameClass) (d : Definitions) (opened : List (List Char))
    (isCharacterData isOuter : Bool) (value after : Source) : Except Mishap (List Char) := do
  let v ← replaceWith k d after isOuter (replaceWithin d (d.entities.length + 1)) opened
    (value.length + 1) ⟨[], isCharacterData⟩ value
  pure v.text

end ContractDrift.Xml
