/-
Whole documents.

`Document.read` takes the octets of a document and answers its root element, or why
the document is refused and where.  A document is a prolog, the content of the root,
and an epilog of blanks, comments and instructions.

Design notes: the octets are read into glyphs by the form that their start shows.  A
declaration may name another character set, and then the octets after it are read
again; the place of a fault is counted over the glyphs as they were read.
-/
import ContractDrift.Xml.Declaration
import ContractDrift.Xml.Doctype
import ContractDrift.Text.CodePage

namespace ContractDrift.Xml

open ContractDrift.Text (Octets CharacterSet ByteOrder)

/-! ## The character set -/

/-- The forms that documents may name without a table. -/
def Form.named? (name : List Char) : Option Form :=
  let word := String.ofList (name.map Char.toLower)
  if word = "utf-8" then some .utf8
  else if word = "utf-16" || word = "utf-16be" then some (.utf16 .big)
  else if word = "utf-16le" then some (.utf16 .little)
  else if word = "iso-8859-1" then some (.table Text.firstCodePoints .latin)
  else if word = "us-ascii" then some (.table Text.asciiOnly .plain)
  else none

/-- What becomes of the form when a declaration names a character set. -/
inductive Redirection where
  | form (f : Form)
  | fault (f : Fault)
  | refused (e : ReadError)

/-- The form that a document in form `current` takes on when it names a character
set. -/
def Form.redirect (current : Form) (name : List Char) : Redirection :=
  let word := String.ofList name
  if current.width = 2 ∧ name.map Char.toLower = "utf-16".toList then .form current
  else match Form.named? name with
    | some f =>
      if f.width ≠ current.width then .fault .incorrectEncoding
      else if f.width = 2 ∧ f ≠ current then .fault .incorrectEncoding
      else .form f
    | none =>
      match CharacterSet.named? word with
      | some (.page upper) => .form (.table upper .plain)
      | some .multiByte => .refused .multiByteCharacterSet
      | some .incompatible => .fault .unknownEncoding
      | some .notText => .refused (.notText word)
      | none => .refused (.unknownCharacterSet word)

/-! ## Reading -/

/-- A document while its prolog is read: its octets, the number of octets of its byte
order mark, its form, all its glyphs, and what it declares. -/
structure Reading where
  octets : Octets
  markLength : Nat
  form : Form
  whole : Source
  definitions : Definitions

/-- The column at which the first line starts: the byte order mark counts as the
characters that it is in the form of the document. -/
def Reading.margin (d : Reading) : Nat :=
  match d.form with
  | .table _ _ => d.markLength
  | _ => if d.markLength = 0 then 0 else 1

/-- The refusal for a fault where `rest` is left. -/
def Reading.refuse (d : Reading) (f : Fault) (rest : Source) : ReadError :=
  let (line, column) := placeOf d.margin d.whole rest.length
  .malformed f line column

/-- The refusal for a failure. -/
def Reading.refuseFailure (d : Reading) (e : Failure) : ReadError := d.refuse e.fault e.place

/-- Whether the last octet is only a part of a unit. -/
def Reading.endsInside (d : Reading) : Bool :=
  d.form.width == 2 && (d.octets.length - d.markLength) % 2 == 1

/-- Takes in a declaration: `text` is what it says, `after` what is left at its closing
mark and `rest` what is left after it. -/
def Reading.declare (d : Reading) (text after rest : Source) :
    Except ReadError (Reading × Source) :=
  match Declaration.parse text with
  | .error place => .error (d.refuse .malformedDeclaration (place ++ after))
  | .ok declaration =>
    let d := { d with
      definitions := { d.definitions with standalone := declaration.standalone.getD false } }
    match declaration.encoding with
    | none => .ok (d, rest)
    | some (name, place) =>
      match d.form.redirect name with
      | .fault f => .error (d.refuse f (place ++ after))
      | .refused e => .error e
      | .form f =>
        let consumed := d.whole.length - rest.length
        let rest := f.read (d.octets.drop (d.markLength + d.form.width * consumed))
        .ok ({ d with form := f, whole := d.whole.take consumed ++ rest }, rest)

/-- Reads the blanks, comments and instructions before the root, and the document type
declaration, of which there is at most one. -/
def readProlog : (fuel : Nat) → (doctypeSeen : Bool) → Reading → Source →
    Except ReadError (Reading × Source)
  | 0, _, d, gs => .error (d.refuse .noElement gs)
  | n + 1, doctypeSeen, d, gs =>
    match nextPrologToken d.form.names gs with
    | .error s => .error (d.refuseFailure (prologStop gs s))
    | .ok none => .error (d.refuse (if d.endsInside then .unclosedToken else .noElement) gs)
    | .ok (some (token, rest)) =>
      match token with
      | .blanks => readProlog n doctypeSeen d rest
      | .comment => readProlog n doctypeSeen d rest
      | .instruction .other _ _ => readProlog n doctypeSeen d rest
      | .instruction .declaration _ _ => .error (d.refuse .misplacedDeclaration gs)
      | .rootStart => .ok (d, gs)
      | .parameterReference => .error (d.refuse .parameterReference gs)
      | .declaration word =>
        if word = "DOCTYPE".toList ∧ doctypeSeen = false then
          match Doctype.read d.form.names d.definitions rest with
          | .error e => .error (d.refuseFailure e)
          | .ok (definitions, rest) => readProlog n true { d with definitions } rest
        else .error (d.refuse .unexpectedToken gs)
      | _ => .error (d.refuse .unexpectedToken gs)

/-- Reads the start of a document: its declaration, if it has one, and its prolog. -/
def readStart (d : Reading) : Except ReadError (Reading × Source) :=
  let gs := d.whole
  match nextPrologToken d.form.names gs with
  | .ok (some (.instruction .declaration text after, rest)) => do
    let (d, rest) ← d.declare text after rest
    readProlog (rest.length + 1) false d rest
  | _ => readProlog (gs.length + 1) false d gs

/-- Reads what follows the root: blanks, comments and instructions. -/
def readEpilog (k : NameClass) : (fuel : Nat) → Source → Except Failure Unit
  | 0, _ => .ok ()
  | n + 1, gs =>
    match nextPrologToken k gs with
    | .error s => .error (prologStop gs s)
    | .ok none => .ok ()
    | .ok (some (token, rest)) =>
      match token with
      | .blanks => readEpilog k n rest
      | .comment => readEpilog k n rest
      | .instruction .other _ _ => readEpilog k n rest
      | _ => .error ⟨.junkAfterRoot, gs⟩

/-- Reads the content of a document and what follows it. -/
def readBody (d : Reading) (gs : Source) : Except Failure Element := do
  let (b, rest) ← Content.read d.form.names d.definitions gs
  readEpilog d.form.names (rest.length + 1) rest
  match b.root with
  | some e => pure e
  | none => .error ⟨.noElement, []⟩

/-- Reads a document whose form is known. -/
def Reading.finish (d : Reading) : Except ReadError Element := do
  let (d, rest) ← readStart d
  match readBody d rest with
  | .ok e => if d.endsInside then .error (d.refuse .unclosedToken []) else pure e
  | .error e =>
    let fault := if d.endsInside ∧ e.fault = .noElement ∧ e.place = [] then .unclosedToken
      else e.fault
    .error (d.refuse fault e.place)

/-- Reads a document. -/
def Document.read (octets : Octets) : Except ReadError Element :=
  match Form.detect octets with
  | none => .error (.malformed .unclosedToken 1 0)
  | some (form, mark) =>
    Reading.finish ⟨octets, mark, form, form.read (octets.drop mark), Definitions.empty⟩

end ContractDrift.Xml
