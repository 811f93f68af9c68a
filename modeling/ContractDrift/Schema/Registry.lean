/-
A registry of schemas.

`Registry.load` checks a schema document and enters it under an identifier: the one that
is given, else the document's own, else the path of its file.  `validate` evaluates a
document against an entry and sorts the violations by place and message.

Design notes: loading gives the registry back only when it succeeds, so that a failure
cannot change it.  `loadAll` stops at the first file that fails and keeps what it has
loaded before, which is why its answer has the registry beside the failure.
-/
import ContractDrift.Schema.Compiled
import ContractDrift.Schema.Identifier
import ContractDrift.Json.Reader
import ContractDrift.Files.Reader

namespace ContractDrift.Schema

open ContractDrift.Json (Value Members)
open ContractDrift.Text (Octets)

/-- A schema document as it is handed in. -/
inductive Document where
  | parsed (members : Members)
  | text (s : String)
  | octets (bs : Octets)
  deriving Inhabited

/-- Why a schema is not loaded. -/
inductive LoadError where
  /-- The document is no JSON; `source` is the path of its file. -/
  | malformed (source : Option String) (e : Json.ReadError)
  | tooManyDigits (e : Json.ReadError)
  | notAnObject (kind : String)
  | keywordNotText (keyword kind : String)
  | noIdentifier
  | invalid (id : String) (violation : Violation)
  /-- The check of the schema comes to no end. -/
  | stopped (s : Stop)
  | unreadable (e : Files.ReadError)
  deriving Inhabited

/-- The wording of a failure. -/
def LoadError.message : LoadError → String
  | .malformed source e =>
    "Malformed JSON Schema" ++ (source.map (" in " ++ ·)).getD "" ++ ": " ++ e.message
  | .tooManyDigits e => e.message
  | .notAnObject kind => "JSON Schema must be an object, got " ++ kind
  | .keywordNotText keyword kind =>
    "Invalid JSON Schema: '" ++ keyword ++ "' must be a string, got " ++ kind
  | .noIdentifier => "Cannot determine schema id: no id, $id or source path"
  | .invalid id violation => "Invalid JSON Schema " ++ id ++ ": " ++ violation.message
  | .stopped s => s.message
  | .unreadable e => e.message

/-- Whether a schema is refused for what it says, or because its file is not there. -/
def LoadError.isOfContent : LoadError → Bool
  | .tooManyDigits _ => false
  | .stopped _ => false
  | .unreadable e => e.isAbsence
  | _ => true

/-- The members of a document. -/
def Document.members (d : Document) (source : Option String) : Except LoadError Members :=
  let ofResult (r : Except Json.ReadError Value) : Except LoadError Members :=
    match r with
    | .ok (.object m) => .ok m
    | .ok v => .error (.notAnObject v.kindName)
    | .error (.tooManyDigits n) => .error (.tooManyDigits (.tooManyDigits n))
    | .error e => .error (.malformed source e)
  match d with
  | .parsed m => .ok m
  | .text s => ofResult (Json.parse s)
  | .octets bs => ofResult (Json.parseOctets bs)

/-- Refuses a keyword whose value is no text. -/
def checkText (document : Members) (keyword : String) : Except LoadError Unit :=
  match document.get? keyword with
  | none => .ok ()
  | some (.text _) => .ok ()
  | some v => .error (.keywordNotText keyword v.kindName)

/-- The text, if it is not empty. -/
def nonEmpty? (s : Option String) : Option String := s.filter (· ≠ "")

/-- The identifier that a path of a file stands for at `place`. -/
def sourceIdentifier (place : Files.Path) (source : String) : Except LoadError String :=
  if source.toList.contains '\x00' then .error (.unreadable .embeddedNull)
  else .ok (Files.resolve place source).text

/-- The identifier for a document: the given one, its own or the path of its file at
`place`; an empty text is none. -/
def identifier (place : Files.Path) (document : Members) (given source : Option String) :
    Except LoadError String :=
  match (nonEmpty? given).orElse fun _ =>
      nonEmpty? ((document.get? "$id").bind Value.text?), source with
  | some id, _ => .ok id
  | none, some path => sourceIdentifier place path
  | none, none => .error .noIdentifier

/-- A schema that is entered in a registry. -/
structure Loaded where
  id : String
  schema : Compiled
  deriving Inhabited

/-- Reads and checks a schema document; `place` is the directory that relative paths start
from. -/
def compile (place : Files.Path) (d : Document) (given source : Option String) :
    Except LoadError Loaded := do
  let document ← d.members source
  checkText document "$schema"
  checkText document "$id"
  let id ← identifier place document given source
  match check document with
  | .error s => .error (.stopped s)
  | .ok (some violation) => .error (.invalid id violation)
  | .ok none => .ok ⟨id, Compiled.ofDocument document⟩

/-- The schemas that are loaded, by identifier. -/
structure Registry where
  entries : List (String × Compiled)
  deriving Inhabited

/-- What a document is found to be. -/
structure Verdict where
  /-- The violations, by place and message. -/
  violations : List Violation
  id : String
  deriving Repr, Inhabited

/-- Whether there is no violation. -/
def Verdict.isValid (v : Verdict) : Bool := v.violations.isEmpty

/-- The violations as they are reported: nothing, if there is none. -/
def Verdict.errors? (v : Verdict) : Option (List Violation) :=
  if v.isValid then none else some v.violations

/-- Why a document is not validated. -/
inductive QueryError where
  | notLoaded (id : String) (available : List String)
  | stopped (s : Stop)
  deriving Inhabited

/-- The wording of a failure. -/
def QueryError.message : QueryError → String
  | .notLoaded id available =>
    "Schema not loaded: " ++ id ++ ". Available: " ++ ", ".intercalate available
  | .stopped s => s.message

/-- The order of violations: by place, then by message. -/
def Violation.le (a b : Violation) : Bool :=
  if a.place = b.place then Text.le a.message b.message else Text.le a.place b.place

/-- A violation on one line. -/
def Violation.line (v : Violation) : String := v.place ++ " " ++ v.message

/-- The keyword of a violation as reports show it. -/
def Violation.keywordShown (v : Violation) : String := v.keyword.getD "None"

/-- The violations, each on a line of its own. -/
def Verdict.lines (v : Verdict) : List String := v.violations.map (·.line)

/-- The violations of a document on one line. -/
def Verdict.assertionMessage (v : Verdict) : String :=
  "Schema validation failed for " ++ v.id ++ ": " ++ "; ".intercalate v.lines

/-- Why a document that has to be valid is refused. -/
inductive AssertionError where
  | query (e : QueryError)
  | violated (v : Verdict)
  deriving Inhabited

/-- The wording of a refusal. -/
def AssertionError.message : AssertionError → String
  | .query e => e.message
  | .violated v => v.assertionMessage

/-- Sets the entry of a key, in place if it is there. -/
def setEntry (id : String) (c : Compiled) : List (String × Compiled) → List (String × Compiled)
  | [] => [(id, c)]
  | (k, d) :: r => if k = id then (k, c) :: r else (k, d) :: setEntry id c r

namespace Registry

/-- The registry without schemas. -/
def empty : Registry := ⟨[]⟩

/-- The entry of an identifier. -/
def compiled? (r : Registry) (id : String) : Option Compiled := r.entries.lookup id

/-- The registry with an entry more. -/
def insert (r : Registry) (l : Loaded) : Registry := ⟨setEntry l.id l.schema r.entries⟩

/-- The identifiers, sorted. -/
def ids (r : Registry) : List String := Text.sort (r.entries.map (·.1))

/-- Whether an identifier has an entry. -/
def contains (r : Registry) (id : String) : Bool := (r.compiled? id).isSome

/-- Loads a schema document. -/
def load (r : Registry) (place : Files.Path) (d : Document) (given source : Option String) :
    Except LoadError (Loaded × Registry) := do
  let l ← compile place d given source
  return (l, r.insert l)

/-- Reads the schema of a file. -/
def compileFile (reader : Files.Reader) (path : String) (given : Option String) :
    Except LoadError Loaded := do
  let lift {α : Type} (x : Except Files.ReadError α) : Except LoadError α :=
    x.mapError LoadError.unreadable
  let content ← lift (reader.read path)
  let source ← lift (reader.resolve path)
  compile [] (.octets content) given (some source.text)

/-- Loads the schema of a file. -/
def loadFile (r : Registry) (reader : Files.Reader) (path : String) (given : Option String) :
    Except LoadError (Loaded × Registry) := do
  let l ← compileFile reader path given
  return (l, r.insert l)

/-- What has been loaded of some files, and why the rest has not. -/
structure Batch where
  loaded : List Loaded
  registry : Registry
  failure : Option LoadError
  deriving Inhabited

/-- Loads files under identifiers from their names, up to the first that fails. -/
def loadFiles (reader : Files.Reader) (r : Registry) : List Files.Path → Batch
  | [] => ⟨[], r, none⟩
  | p :: rest =>
    match r.loadFile reader p.text (some (identifierOfFile (p.getLast?.getD ""))) with
    | .error e => ⟨[], r, some e⟩
    | .ok (l, r) =>
      let b := loadFiles reader r rest
      { b with loaded := l :: b.loaded }

/-- Loads the schemas of a directory. -/
def loadAll (r : Registry) (reader : Files.Reader) (directory : String) : Batch :=
  match reader.list directory "*.json" with
  | .error e => ⟨[], r, some (.unreadable e)⟩
  | .ok paths => loadFiles reader r paths

/-- The entry of an identifier, or why there is none. -/
def get (r : Registry) (id : String) : Except QueryError Compiled :=
  match r.compiled? id with
  | some c => .ok c
  | none => .error (.notLoaded id r.ids)

/-- The document under an identifier. -/
def schema (r : Registry) (id : String) : Except QueryError Members :=
  (r.get id).map (·.document)

/-- Evaluates a document against an entry. -/
def validate (r : Registry) (id : String) (v : Value) : Except QueryError Verdict := do
  let c ← r.get id
  match c.violations v with
  | .ok found => return ⟨found.mergeSort Violation.le, id⟩
  | .error s => throw (.stopped s)

/-- Refuses a document that is not valid against an entry. -/
def assertValid (r : Registry) (id : String) (v : Value) : Except AssertionError Unit :=
  match r.validate id v with
  | .error e => .error (.query e)
  | .ok found => if found.isValid then .ok () else .error (.violated found)

end Registry

/-! ## Entries -/

theorem lookup_setEntry_self (id : String) (c : Compiled) (entries : List (String × Compiled)) :
    (setEntry id c entries).lookup id = some c := by
  induction entries with
  | nil => simp [setEntry]
  | cons e r ih =>
    obtain ⟨k, d⟩ := e
    by_cases h : k = id
    · simp [setEntry, h]
    · have : (id == k) = false := by simpa using Ne.symm h
      simp [setEntry, h, List.lookup_cons, this, ih]

theorem lookup_setEntry_of_ne {id id' : String} (c : Compiled) (h : id' ≠ id)
    (entries : List (String × Compiled)) :
    (setEntry id c entries).lookup id' = entries.lookup id' := by
  induction entries with
  | nil =>
    have : (id' == id) = false := by simpa using h
    simp [setEntry, List.lookup_cons, this]
  | cons e r ih =>
    obtain ⟨k, d⟩ := e
    by_cases hk : k = id
    · subst hk
      have : (id' == k) = false := by simpa using h
      simp [setEntry, List.lookup_cons, this]
    · simp only [setEntry, hk, if_false, List.lookup_cons, ih]

/-- The schema that has been loaded last is found under its identifier. -/
theorem Registry.compiled?_insert_self (r : Registry) (l : Loaded) :
    (r.insert l).compiled? l.id = some l.schema :=
  lookup_setEntry_self l.id l.schema r.entries

/-- Loading a schema leaves the other entries alone. -/
theorem Registry.compiled?_insert_of_ne (r : Registry) (l : Loaded) {id : String} (h : id ≠ l.id) :
    (r.insert l).compiled? id = r.compiled? id :=
  lookup_setEntry_of_ne l.schema h r.entries

end ContractDrift.Schema
