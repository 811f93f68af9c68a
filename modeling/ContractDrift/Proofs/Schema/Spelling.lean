/-
One file, one schema.

A path has many spellings: relative and in full, with single points, steps back and repeated slashes
(`Spells`).  A reader resolves each of them against its root, and the registry resolves the path
that it is handed once more, against the directory that the program runs in.  The second step
changes nothing, wherever that is (`compile_of_source`), so that the load of a file depends on the
path alone.

`loadFile_spelling` states this for every state of a registry: whichever spelling a file is loaded
by, the answer is of one kind, the registry after it is the same, and a further load by another
spelling leaves that registry as it is.  What is entered is one schema (`Enters`).

Design notes: the two answers are equal but where the path is refused, for a refusal quotes the path
as it is written (`Answer.OfOneKind`).
-/
import ContractDrift.Proofs.Schema.Directory
import ContractDrift.Proofs.Schema.Loading

namespace ContractDrift.Schema

open ContractDrift.Json (Members)

/-! ## Spellings and answers -/

/-- A written path is a spelling of a path, for a reader with this root: it leads there and holds no
NUL character. -/
structure Spells (root : Files.Path) (written : String) (p : Files.Path) : Prop where
  no_null : '\x00' ∉ written.toList
  leads : Files.LeadsTo root written p

/-- The identifier of a file's schema: its own or, where it has none or an empty one, the path of
the file. -/
inductive IsFileIdentifier (m : Members) (p : Files.Path) : String → Prop
  | own {id : String} : m.get? "$id" = some (.text id) → id ≠ "" → IsFileIdentifier m p id
  | path : OwnsNone m → IsFileIdentifier m p p.text

/-- Two answers are the same, or they refuse two spellings of one path. -/
inductive Answer.OfOneKind : Answer → Answer → Prop
  | same (a : Answer) : OfOneKind a a
  | refused (written written' : String) (root : Files.Path) :
      OfOneKind (.loaded (.error (.unreadable (.escapes written root))))
        (.loaded (.error (.unreadable (.escapes written' root))))

namespace Registry

/-- One registry is another with the schema of a file entered: under its identifier, which is
listed once, and beside all that was there. -/
structure Enters (r : Registry) (tree : Files.Tree) (p : Files.Path) (id : String)
    (r' : Registry) : Prop where
  canonical : p.IsCanonical
  schema : ∃ content m, tree.file? p = some content ∧ Decodes (.octets content) m ∧
    IsFileIdentifier m p id ∧ r'.schema id = .ok m
  ids : r'.ids.Perm (if id ∈ r.ids then r.ids else id :: r.ids)
  others : ∀ id', id' ≠ id → id' ∈ r.ids → r'.AnswersAlike r id'

/-- What a registry answers when a schema is handed to it, and what it is then. -/
def receive (r : Registry) : Except LoadError Loaded → Answer × Registry
  | .ok l => (.loaded (.ok l.id), r.insert l)
  | .error e => (.loaded (.error e), r)

end Registry

variable {reader : Files.Reader} {written written' : String} {p : Files.Path}

/-! ## A schema is received twice -/

theorem setEntry_setEntry (id : String) (c : Compiled) (entries : List (String × Compiled)) :
    setEntry id c (setEntry id c entries) = setEntry id c entries := by
  induction entries with
  | nil => simp [setEntry]
  | cons e rest ih =>
    obtain ⟨k, d⟩ := e
    by_cases h : k = id
    · simp [setEntry, h]
    · simp [setEntry, h, ih]

namespace Registry

theorem insert_insert (r : Registry) (l : Loaded) : (r.insert l).insert l = r.insert l := by
  rw [insert, insert, setEntry_setEntry]

/-- An identifier is listed once, whether or not it was there. -/
theorem ids_insert (r : Registry) (l : Loaded) :
    (r.insert l).ids.Perm (if l.id ∈ r.ids then r.ids else l.id :: r.ids) := by
  have hsort (keys : List String) : (Text.sort keys).Perm keys := List.mergeSort_perm keys _
  have hmem : l.id ∈ r.ids ↔ l.id ∈ r.entries.map (·.1) := Text.mem_sort
  show (Text.sort ((setEntry l.id l.schema r.entries).map (·.1))).Perm _
  rw [keys_setEntry]
  by_cases h : l.id ∈ r.ids
  · rw [if_pos h, if_pos (hmem.mp h)]
    exact List.Perm.refl _
  · rw [if_neg h, if_neg (hmem.not.mp h)]
    have hfront := List.perm_append_singleton l.id (r.entries.map (·.1))
    exact ((hsort _).trans hfront).trans ((hsort _).cons l.id).symm

/-- What was under another identifier is answered as before. -/
theorem answersAlike_insert (r : Registry) (l : Loaded) {id : String} (hne : id ≠ l.id)
    (hid : id ∈ r.ids) : (r.insert l).AnswersAlike r id := by
  obtain ⟨c, hc⟩ := Option.isSome_iff_exists.mp (mem_ids_iff.mp hid)
  exact answersAlike_of_compiled? ((compiled?_insert_of_ne r l hne).trans hc) hc

theorem call_load (r : Registry) (place : Files.Path) (d : Document)
    (given source : Option String) :
    r.call (.load place d given source) = r.receive (compile place d given source) := by
  rw [call, load_eq]
  cases compile place d given source <;> rfl

theorem call_loadFile (r : Registry) (reader : Files.Reader) (path : String)
    (given : Option String) :
    r.call (.loadFile reader path given) = r.receive (compileFile reader path given) := by
  rw [call, loadFile_eq]
  cases compileFile reader path given <;> rfl

/-- A schema that is received again changes nothing, and nor does a failure. -/
theorem receive_receive (r : Registry) (x : Except LoadError Loaded) :
    ((r.receive x).2.receive x).2 = (r.receive x).2 := by
  cases x with
  | error e => rfl
  | ok l => exact insert_insert r l

end Registry

/-! ## The path alone decides -/

/-- A path in full is resolved to itself in every directory, so this does not matter to a load. -/
theorem compile_of_source (hp : p.IsCanonical) (here there : Files.Path) (d : Document)
    (given : Option String) :
    compile here d given (some p.text) = compile there d given (some p.text) := by
  have hidentifier (m : Members) :
      identifier here m given (some p.text) = identifier there m given (some p.text) := by
    rcases identifier_cases given m with ⟨id, hid, hne⟩ | ⟨hgiven, ⟨id, hid, hne⟩ | hown⟩
    · rw [identifier_of_given hid hne, identifier_of_given hid hne]
    · rw [identifier_of_own hgiven hid hne, identifier_of_own hgiven hid hne]
    · rw [identifier_of_none hgiven hown, identifier_of_none hgiven hown, Option.elim_some,
        Option.elim_some, sourceIdentifier_text hp, sourceIdentifier_text hp]
  simp only [compile_eq, hidentifier]

theorem isFileIdentifier_of_isIdentifier (hp : p.IsCanonical) {place : Files.Path} {m : Members}
    {id : String} (h : IsIdentifier place m none (some p.text) id) : IsFileIdentifier m p id := by
  cases h with
  | given hgiven => cases hgiven
  | own _ hid hne => exact .own hid hne
  | source _ hown hpath _ =>
    obtain rfl := Option.some.inj hpath
    rw [Files.resolve_text hp.isWritten, Files.normalize_of_not_mem hp.not_mem_back]
    exact .path hown

theorem compileFile_of_resolve {x : Except Files.ReadError Files.Path}
    (h : reader.resolve written = x) (h' : reader.resolve written' = x) (given : Option String) :
    Registry.compileFile reader written given = Registry.compileFile reader written' given := by
  have hread : reader.read written = reader.read written' := by
    rw [Files.Reader.read_eq, Files.Reader.read_eq, h, h']
  rw [Registry.compileFile, Registry.compileFile, hread, h, h']

theorem compileFile_of_refused {e : Files.ReadError} (h : reader.resolve written = .error e)
    (given : Option String) :
    Registry.compileFile reader written given = .error (.unreadable e) := by
  have hread : reader.read written = .error e := by
    rw [Files.Reader.read_eq, h]
    rfl
  rw [Registry.compileFile, hread]
  rfl

theorem compileFile_of_read {content : Text.Octets} (hread : reader.read written = .ok content)
    (hresolve : reader.resolve written = .ok p) (given : Option String) :
    Registry.compileFile reader written given =
      compile [] (.octets content) given (some p.text) := by
  rw [Registry.compileFile, hread, hresolve]
  rfl

/-! ## Loads of one file -/

theorem Spells.isCanonical {root : Files.Path} (h : Spells root written p)
    (hroot : root.IsCanonical) : p.IsCanonical := by
  rw [(Files.leadsTo_iff hroot written).mp h.leads]
  exact Files.isCanonical_resolve hroot h.no_null

/-- Two spellings of a path are loaded alike, or both are refused. -/
theorem compileFile_spellings (hroot : reader.root.IsCanonical)
    (h : Spells reader.root written p) (h' : Spells reader.root written' p)
    (given : Option String) :
    Registry.compileFile reader written given = Registry.compileFile reader written' given ∨
      Registry.compileFile reader written given =
          .error (.unreadable (.escapes written reader.root)) ∧
        Registry.compileFile reader written' given =
          .error (.unreadable (.escapes written' reader.root)) := by
  -- both spellings lead to one file, so the same is read or both are refused
  by_cases hinside : reader.IsInside p
  · exact .inl (compileFile_of_resolve
      (Files.Reader.resolve_of_isInside hroot h.no_null h.leads hinside)
      (Files.Reader.resolve_of_isInside hroot h'.no_null h'.leads hinside) given)
  · exact .inr ⟨compileFile_of_refused
      (Files.Reader.resolve_of_not_isInside hroot h.no_null h.leads hinside) given,
      compileFile_of_refused
        (Files.Reader.resolve_of_not_isInside hroot h'.no_null h'.leads hinside) given⟩

/-- So they are answered in one way, and the registry after either is the same. -/
theorem call_spellings (hroot : reader.root.IsCanonical)
    (h : Spells reader.root written p) (h' : Spells reader.root written' p)
    (given : Option String) (r : Registry) :
    (r.call (.loadFile reader written given)).1.OfOneKind
        (r.call (.loadFile reader written' given)).1 ∧
      (r.call (.loadFile reader written given)).2 =
        (r.call (.loadFile reader written' given)).2 := by
  rw [Registry.call_loadFile, Registry.call_loadFile]
  rcases compileFile_spellings hroot h h' given with heq | ⟨hrefused, hrefused'⟩
  · rw [heq]
    exact ⟨.same _, rfl⟩
  · rw [hrefused, hrefused']
    exact ⟨.refused written written' reader.root, rfl⟩

/-- A schema that is loaded from a file is entered. -/
theorem enters_of_compileFile (hroot : reader.root.IsCanonical)
    (h : Spells reader.root written p) {l : Loaded}
    (hl : Registry.compileFile reader written none = .ok l) (r : Registry) :
    r.Enters reader.tree p l.id (r.insert l) := by
  have hp : p.IsCanonical := h.isCanonical hroot
  obtain ⟨content, source, hread, hsource, hcompile⟩ := compileFile_eq_ok_iff.mp hl
  -- the path that the reader answers is the one that is spelt
  obtain rfl : p = source := by
    obtain ⟨-, hleads, -⟩ := (Files.Reader.resolve_eq_ok_iff hroot).mp hsource
    exact h.leads.unique hroot hleads
  have hfile : reader.tree.file? p = some content := by
    obtain ⟨q, hq, hfile⟩ := (Files.Reader.foretellsRead reader written).content content hread
    obtain rfl : p = q := Except.ok.inj (hsource.symm.trans hq)
    exact hfile
  obtain ⟨m, hadmits, hschema⟩ := compile_eq_ok_iff_admits.mp hcompile
  constructor
  · exact hp
  · refine ⟨content, m, hfile, hadmits.decodes,
      isFileIdentifier_of_isIdentifier hp hadmits.identifier, ?_⟩
    rw [Registry.schema, Registry.get, Registry.compiled?_insert_self, hschema]
    rfl
  · exact r.ids_insert l
  · intro id hne hid
    exact r.answersAlike_insert l hne hid

/-- One file is one schema, however its path is spelt.  Two loads of it, by any two spellings, give
answers of one kind and leave the same registry, and so do both together, in either order.  What is
entered, if anything is, is the schema of the file under the identifier that it has by itself or by
its path.  And where the file can be read, its load is that of its content with this path as the
source, in whatever directory the program runs. -/
theorem loadFile_spelling {tree : Files.Tree} {place : Files.Path} {root : String}
    (hplace : place.IsCanonical) (hopen : Files.Reader.open? tree place root = .ok reader)
    (h : Spells reader.root written p) (h' : Spells reader.root written' p) (r : Registry) :
    let c := Call.loadFile reader written none
    let c' := Call.loadFile reader written' none
    (r.call c).1.OfOneKind (r.call c').1 ∧ (r.call c).2 = (r.call c').2 ∧
    r.after [c, c'] = (r.call c).2 ∧ r.after [c', c] = (r.call c).2 ∧
    (∀ id, (r.call c).1 = .loaded (.ok id) → r.Enters tree p id (r.call c).2) ∧
    ∀ content, reader.IsInside p → tree.isTooLong p = false → tree.file? p = some content →
      ∀ here, r.call c = r.call (.load here (.octets content) none (some p.text)) := by
  intro c c'
  have hroot := Files.Reader.isCanonical_root hplace hopen
  obtain rfl := Files.Reader.tree_of_open? hopen
  have hcall (r : Registry) : r.call c = r.receive (Registry.compileFile reader written none) :=
    r.call_loadFile reader written none
  have hspellings (r : Registry) := call_spellings hroot h h' none r
  -- a load that is made once more changes nothing, whatever it came to
  have hagain : ((r.call c).2.call c).2 = (r.call c).2 := by
    rw [hcall, hcall, Registry.receive_receive]
  refine ⟨(hspellings r).1, (hspellings r).2, ?_, ?_, ?_, ?_⟩
  · show ((r.call c).2.call c').2 = (r.call c).2
    rw [← (hspellings (r.call c).2).2, hagain]
  · show ((r.call c').2.call c).2 = (r.call c).2
    rw [← (hspellings r).2, hagain]
  · intro id hid
    rw [hcall] at hid ⊢
    cases hl : Registry.compileFile reader written none with
    | error e =>
      rw [hl] at hid
      cases hid
    | ok l =>
      rw [hl] at hid
      cases hid
      exact enters_of_compileFile hroot h hl r
  · intro content hinside hlength hfile here
    have hresolve := Files.Reader.resolve_of_isInside hroot h.no_null h.leads hinside
    have hread := Files.Reader.read_of_file hresolve hlength hfile
    rw [hcall, Registry.call_load, compileFile_of_read hread hresolve,
      compile_of_source (h.isCanonical hroot) [] here]

/-- The first schema has no identifier of its own and so goes by its path. -/
theorem exists_compileFile_firstSchema :
    ∃ l, Registry.compileFile bothEndings "a.json" none = .ok l ∧ l.id = "/s/a.json" := by
  -- the schema has no identifier of its own, so the path stands in for it
  have hnameless : (schema? firstSchema).map (fun m => (m.get? "$id").isNone) = some true := by
    decide +kernel
  obtain ⟨m, hm, hnone⟩ := Option.map_eq_some_iff.mp hnameless
  have hschema : IsSchema firstSchema m := isSchema_of_schema? hm
  have hown : OwnsNone m := by
    intro id hid
    rw [hid] at hnone
    cases hnone
  have hgiven : GivesNone none := by
    intro id hid
    cases hid
  have hpath : Files.Path.IsCanonical ["s", "a.json"] := by decide +kernel
  have hid : identifier [] m none (some (Files.Path.text ["s", "a.json"])) =
      .ok (Files.Path.text ["s", "a.json"]) := by
    rw [identifier_of_none hgiven hown, Option.elim_some, sourceIdentifier_text hpath]
  have hread : bothEndings.read "a.json" = .ok firstSchema := by decide +kernel
  have hresolve : bothEndings.resolve "a.json" = .ok ["s", "a.json"] := by decide +kernel
  have htext : Files.Path.text ["s", "a.json"] = "/s/a.json" := by decide +kernel
  refine ⟨⟨Files.Path.text ["s", "a.json"], .ofDocument m⟩, ?_, htext⟩
  rw [compileFile_of_read hread hresolve]
  exact compile_eq_ok_iff.mpr ⟨m, members_octets_eq_ok_iff.mpr hschema.parse, hschema.dialect_text,
    hschema.own_text, hid, hschema.valid, rfl⟩

/-- A file that is loaded by a roundabout path and then by its name is one schema, under the path
in full. -/
theorem loadFile_spelling_roundabout :
    let c := Call.loadFile bothEndings "a.json" none
    let c' := Call.loadFile bothEndings "/x/../s/.//a.json" none
    Files.Path.IsCanonical ["s"] ∧
      Files.Reader.open? bothEndings.tree ["s"] "." = .ok bothEndings ∧
      Spells ["s"] "a.json" ["s", "a.json"] ∧ Spells ["s"] "/x/../s/.//a.json" ["s", "a.json"] ∧
      (Registry.empty.call c).1 = .loaded (.ok "/s/a.json") ∧
      (Registry.empty.call c).1.OfOneKind (Registry.empty.call c').1 ∧
      (Registry.empty.after [c', c]).ids = ["/s/a.json"] := by
  intro c c'
  have hplace : Files.Path.IsCanonical ["s"] := by decide +kernel
  have hopen : Files.Reader.open? bothEndings.tree ["s"] "." = .ok bothEndings := rfl
  have hname : Spells ["s"] "a.json" ["s", "a.json"] :=
    ⟨by decide, (Files.leadsTo_iff hplace _).mpr (by decide +kernel)⟩
  have hroundabout : Spells ["s"] "/x/../s/.//a.json" ["s", "a.json"] :=
    ⟨by decide, (Files.leadsTo_iff hplace _).mpr (by decide +kernel)⟩
  obtain ⟨hkind, -, -, hafter, henters, -⟩ :=
    loadFile_spelling hplace hopen hname hroundabout Registry.empty
  have hanswer : (Registry.empty.call c).1 = .loaded (.ok "/s/a.json") := by
    obtain ⟨l, hl, hid⟩ := exists_compileFile_firstSchema
    rw [Registry.call_loadFile, hl, ← hid]
    rfl
  -- both calls enter the one identifier, which is entered once
  have hids := (henters "/s/a.json" hanswer).ids
  refine ⟨hplace, hopen, hname, hroundabout, hanswer, hkind, ?_⟩
  have hempty : Registry.empty.ids = [] := List.mergeSort_nil
  rw [hempty, if_neg List.not_mem_nil] at hids
  rw [hafter]
  exact List.perm_singleton.mp hids

end ContractDrift.Schema
