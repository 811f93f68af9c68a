/-
A registry and the history of its calls.

`Registry.call` makes one call on a registry, and `Registry.after` a sequence of them, some of
which fail.  The loads of a call that succeed are read off its documents and files alone
(`Call.loads`), and all that a registry ever answers is determined by the loads so far:
`Refines` says that it is the finite map from identifiers to the documents last loaded under
them, each of which answers as in a registry of its own.  `registry_history` states this for
every sequence of calls.

Design notes: the files that a reader finds can change from one call to the next, so a call
has its reader with it.  A call changes a registry by entering its loads one after the other
(`call_eq`), and one entry keeps what a registry maps (`Maps.insert`); the history follows by
induction.
-/
import ContractDrift.Proofs.Files.Reader
import ContractDrift.Proofs.Outcome
import ContractDrift.Proofs.Text.Order
import ContractDrift.Schema.Registry

namespace ContractDrift.Schema

open ContractDrift.Json (Value Members)

/-! ## Calls -/

/-- A call on a registry, with the surroundings that it is made in. -/
inductive Call where
  | load (place : Files.Path) (document : Document) (given source : Option String)
  | loadFile (reader : Files.Reader) (path : String) (given : Option String)
  | loadAll (reader : Files.Reader) (directory : String)
  | validate (id : String) (v : Value)
  | assertValid (id : String) (v : Value)
  | schema (id : String)

/-- Whether a call asks about what is loaded. -/
def Call.IsQuestion : Call → Prop
  | .load .. | .loadFile .. | .loadAll .. => False
  | .validate .. | .assertValid .. | .schema .. => True

/-- What a call answers. -/
inductive Answer where
  | loaded (id : Except LoadError String)
  | loadedAll (ids : Except LoadError (List String))
  | verdict (v : Except QueryError Verdict)
  | asserted (v : Except AssertionError Unit)
  | schema (document : Except QueryError Members)

namespace Registry

/-- Makes a call: its answer and the registry after it. -/
def call (r : Registry) : Call → Answer × Registry
  | .load place d given source =>
    match r.load place d given source with
    | .ok (l, r') => (.loaded (.ok l.id), r')
    | .error e => (.loaded (.error e), r)
  | .loadFile reader path given =>
    match r.loadFile reader path given with
    | .ok (l, r') => (.loaded (.ok l.id), r')
    | .error e => (.loaded (.error e), r)
  | .loadAll reader directory =>
    let b := r.loadAll reader directory
    (.loadedAll (match b.failure with
      | none => .ok (b.loaded.map (·.id))
      | some e => .error e), b.registry)
  | .validate id v => (.verdict (r.validate id v), r)
  | .assertValid id v => (.asserted (r.assertValid id v), r)
  | .schema id => (.schema (r.schema id), r)

/-- The registry after some calls. -/
def after (r : Registry) (calls : List Call) : Registry :=
  calls.foldl (fun r c => (r.call c).2) r

end Registry

/-! ## Loads -/

/-- A document that is loaded, with what is entered for it. -/
structure Load where
  document : Document
  loaded : Loaded

/-- The identifier under which a document is loaded. -/
def Load.id (l : Load) : String := l.loaded.id

/-- The load of a file, if it succeeds. -/
def fileLoad? (reader : Files.Reader) (path : String) (given : Option String) : Option Load :=
  match reader.read path, Registry.compileFile reader path given with
  | .ok content, .ok l => some ⟨.octets content, l⟩
  | _, _ => none

/-- The identifier for a file of a directory: the one from its name. -/
def idOf (p : Files.Path) : String := identifierOfFile (p.getLast?.getD "")

/-- The schema of a file of a directory. -/
def compileListed (reader : Files.Reader) (p : Files.Path) : Except LoadError Loaded :=
  Registry.compileFile reader p.text (some (idOf p))

/-- The call that loads a file of a directory under the identifier from its name. -/
def Call.ofFile (reader : Files.Reader) (p : Files.Path) : Call :=
  .loadFile reader p.text (some (idOf p))

/-- The loads of the files of a directory, up to the first that fails. -/
def directoryLoads (reader : Files.Reader) : List Files.Path → List Load
  | [] => []
  | p :: rest =>
    match fileLoad? reader p.text (some (idOf p)) with
    | none => []
    | some l => l :: directoryLoads reader rest

/-- The loads of a call that succeed, in order. -/
def Call.loads : Call → List Load
  | .load place d given source => (compile place d given source).toOption.toList.map (⟨d, ·⟩)
  | .loadFile reader path given => (fileLoad? reader path given).toList
  | .loadAll reader directory =>
    match reader.list directory "*.json" with
    | .error _ => []
    | .ok paths => directoryLoads reader paths
  | .validate _ _ | .assertValid _ _ | .schema _ => []

/-- The registry with some loads entered. -/
def Registry.enter (r : Registry) (loads : List Load) : Registry :=
  loads.foldl (fun r l => r.insert l.loaded) r

/-- What loads again under its own identifier, wherever it is and with no source, is entered as
before. -/
def Load.IsRepeatable (l : Load) : Prop :=
  ∀ place, compile place l.document (some l.id) none = .ok l.loaded

/-- The last of the loads under an identifier. -/
def last? (loads : List Load) (id : String) : Option Load :=
  loads.reverse.find? (fun l => l.id == id)

namespace Registry

/-- Two registries answer alike about an identifier. -/
def AnswersAlike (r r' : Registry) (id : String) : Prop :=
  r.schema id = r'.schema id ∧
    ∀ v, r.validate id v = r'.validate id v ∧ r.assertValid id v = r'.assertValid id v

/-- All that is asked about an identifier is refused: it is not loaded. -/
def IsUnknown (r : Registry) (id : String) : Prop :=
  r.schema id = .error (.notLoaded id r.ids) ∧
    ∀ v, r.validate id v = .error (.notLoaded id r.ids) ∧
      r.assertValid id v = .error (.query (.notLoaded id r.ids))

/-- A registry is the finite map from the identifiers of some loads to the documents that were
loaded last under them. -/
structure Refines (r : Registry) (loads : List Load) : Prop where
  sorted : r.ids.Pairwise Text.Precedes
  mem_ids : ∀ id : String, id ∈ r.ids ↔ ∃ l ∈ loads, l.id = id
  contains_iff : ∀ id : String, r.contains id = true ↔ id ∈ r.ids
  outside : ∀ id : String, id ∉ r.ids → r.IsUnknown id
  inside : ∀ id : String, id ∈ r.ids → ∃ before l after, loads = before ++ l :: after ∧ l.id = id ∧
    (∀ l' ∈ after, l'.id ≠ id) ∧ ∀ place, ∃ fresh,
      empty.load place l.document (some id) none = .ok (l.loaded, fresh) ∧ fresh.ids = [id] ∧
      r.AnswersAlike fresh id

/-- What a call on a registry answers, and the registry that it leaves. -/
structure Serves (r : Registry) (c : Call) (a : Answer) (r' : Registry) : Prop where
  /-- An answer with an identifier tells of the one load of the call. -/
  single : ∀ id : String, a = .loaded (.ok id) → c.loads.map Load.id = [id]
  /-- A load that fails changes nothing. -/
  refused : ∀ e : LoadError, a = .loaded (.error e) → c.loads = [] ∧ r' = r
  /-- A directory that is loaded has all its files loaded. -/
  completed : ∀ (reader : Files.Reader) (directory : String) (ids : List String),
    c = .loadAll reader directory → a = .loadedAll (.ok ids) → c.loads.map Load.id = ids ∧
      ∃ paths, reader.list directory "*.json" = .ok paths ∧
        (∀ p ∈ paths, ∃ id, (r.call (.ofFile reader p)).1 = .loaded (.ok id)) ∧
        r' = r.after (paths.map (.ofFile reader))
  /-- Of a directory that cannot be loaded as a whole, the files before the one that fails are. -/
  halted : ∀ (reader : Files.Reader) (directory : String) (e : LoadError),
    c = .loadAll reader directory → a = .loadedAll (.error e) →
      (∃ e', reader.list directory "*.json" = .error e' ∧ e = .unreadable e' ∧ c.loads = [] ∧
        r' = r) ∨
      ∃ before p rest, reader.list directory "*.json" = .ok (before ++ p :: rest) ∧
        (∀ q ∈ before, ∃ id, (r.call (.ofFile reader q)).1 = .loaded (.ok id)) ∧
        (r.call (.ofFile reader p)).1 = .loaded (.error e) ∧
        c.loads = before.flatMap (fun q => (Call.ofFile reader q).loads) ∧
        r' = r.after (before.map (.ofFile reader))
  /-- What is loaded under other identifiers is as before. -/
  others : ∀ id : String, id ∉ c.loads.map Load.id → id ∈ r.ids → r'.AnswersAlike r id
  /-- Questions change nothing. -/
  asked : c.IsQuestion → r' = r

end Registry

/-! ## One load -/

/-- What reading a document as JSON comes to; an object that is given as such is not read. -/
def Document.read : Document → Except Json.ReadError Value
  | .parsed m => .ok (.object m)
  | .text s => Json.parse s
  | .octets bs => Json.parseOctets bs

/-- A document is an object, given as such or as JSON. -/
def Decodes (d : Document) (m : Members) : Prop := d.read = .ok (.object m)

theorem members_eq (d : Document) (source : Option String) :
    d.members source = match d.read with
      | .ok (.object m) => .ok m
      | .ok v => .error (.notAnObject v.kindName)
      | .error (.tooManyDigits n) => .error (.tooManyDigits (.tooManyDigits n))
      | .error e => .error (.malformed source e) := by
  cases d <;> rfl

theorem members_eq_ok_iff {d : Document} {source : Option String} {m : Members} :
    d.members source = .ok m ↔ Decodes d m := by
  rw [members_eq, Decodes]
  split <;> simp_all

/-- The members of a document that has any do not depend on where it comes from. -/
theorem members_source {d : Document} {source : Option String} {m : Members}
    (h : d.members source = .ok m) (source' : Option String) : d.members source' = .ok m :=
  members_eq_ok_iff.mpr (members_eq_ok_iff.mp h)

/-- Octets have the members of the JSON object that they are. -/
theorem members_octets_eq_ok_iff {bs : Text.Octets} {source : Option String} {m : Members} :
    (Document.octets bs).members source = .ok m ↔ Json.parseOctets bs = .ok (.object m) :=
  members_eq_ok_iff

theorem ne_empty_of_nonEmpty? {s : Option String} {t : String} (h : nonEmpty? s = some t) :
    t ≠ "" := by
  simpa using (Option.filter_eq_some_iff.mp h).2

/-- An identifier is never empty. -/
theorem identifier_ne_empty {place : Files.Path} {m : Members} {given source : Option String}
    {id : String} (h : identifier place m given source = .ok id) : id ≠ "" := by
  simp only [identifier] at h
  split at h
  · rename_i found _ hfound
    cases h
    cases hgiven : nonEmpty? given with
    | some g =>
      rw [hgiven] at hfound
      cases hfound
      exact ne_empty_of_nonEmpty? hgiven
    | none =>
      rw [hgiven] at hfound
      exact ne_empty_of_nonEmpty? hfound
  -- the text of a path starts with a slash
  · rename_i path _
    rw [sourceIdentifier] at h
    split at h
    · cases h
    · cases h
      intro hempty
      have := congrArg String.toList hempty
      simp [Files.Path.text] at this
  · cases h

theorem identifier_given {id : String} (h : id ≠ "") (place : Files.Path) (m : Members) :
    identifier place m (some id) none = .ok id := by
  have hgiven : nonEmpty? (some id) = some id := by simp [nonEmpty?, h]
  simp only [identifier, hgiven, Option.orElse_some]

theorem compile_eq_ok_iff {place : Files.Path} {d : Document} {given source : Option String}
    {l : Loaded} :
    compile place d given source = .ok l ↔ ∃ m, d.members source = .ok m ∧
      checkText m "$schema" = .ok () ∧ checkText m "$id" = .ok () ∧
      identifier place m given source = .ok l.id ∧ check m = .ok none ∧
      l.schema = Compiled.ofDocument m := by
  constructor
  · intro h
    obtain ⟨m, hm, h⟩ := bind_eq_ok_iff.mp h
    obtain ⟨_, hschema, h⟩ := bind_eq_ok_iff.mp h
    obtain ⟨_, hown, h⟩ := bind_eq_ok_iff.mp h
    obtain ⟨id, hid, h⟩ := bind_eq_ok_iff.mp h
    split at h
    · cases h
    · cases h
    · rename_i hcheck
      cases h
      exact ⟨m, hm, hschema, hown, hid, hcheck, rfl⟩
  · rintro ⟨m, hm, hschema, hown, hid, hcheck, hl⟩
    obtain ⟨id, schema⟩ := l
    subst hl
    simp only [compile, hm, hschema, hown, hid, hcheck, bind, Except.bind]

/-- A document that is loaded can be loaded again under its identifier. -/
theorem isRepeatable_of_compile {place : Files.Path} {d : Document} {given source : Option String}
    {l : Loaded} (h : compile place d given source = .ok l) : Load.IsRepeatable ⟨d, l⟩ := by
  obtain ⟨m, hm, hschema, hown, hid, hcheck, hl⟩ := compile_eq_ok_iff.mp h
  exact fun place' => compile_eq_ok_iff.mpr ⟨m, members_source hm none, hschema, hown,
    identifier_given (identifier_ne_empty hid) place' m, hcheck, hl⟩

theorem compileFile_eq_ok_iff {reader : Files.Reader} {path : String} {given : Option String}
    {l : Loaded} :
    Registry.compileFile reader path given = .ok l ↔ ∃ content source,
      reader.read path = .ok content ∧ reader.resolve path = .ok source ∧
      compile [] (.octets content) given (some source.text) = .ok l := by
  simp only [Registry.compileFile, bind_eq_ok_iff, mapError_eq_ok_iff]
  constructor
  · rintro ⟨content, hread, source, hresolve, h⟩
    exact ⟨content, source, hread, hresolve, h⟩
  · rintro ⟨content, source, hread, hresolve, h⟩
    exact ⟨content, hread, source, hresolve, h⟩

/-- Of the failures of the file system a document has only that of its path's text. -/
theorem eq_embeddedNull_of_compile {place : Files.Path} {d : Document}
    {given source : Option String} {e : Files.ReadError}
    (h : compile place d given source = .error (.unreadable e)) : e = .embeddedNull := by
  simp only [compile, bind_eq_error_iff] at h
  rcases h with hmembers | ⟨m, -, hschema | ⟨_, -, hown | ⟨_, -, hid | ⟨id, -, h⟩⟩⟩⟩
  · rw [members_eq] at hmembers
    split at hmembers <;> cases hmembers
  · simp only [checkText] at hschema
    split at hschema <;> cases hschema
  · simp only [checkText] at hown
    split at hown <;> cases hown
  · simp only [identifier] at hid
    split at hid
    · cases hid
    · rw [sourceIdentifier] at hid
      split at hid
      · cases hid
        rfl
      · cases hid
    · cases hid
  · split at h <;> cases h

/-- A file is not loaded because it cannot be read, or because of its document. -/
theorem compileFile_error_cases {reader : Files.Reader} {path : String} {given : Option String}
    {e : LoadError} (h : Registry.compileFile reader path given = .error e) :
    (∃ e', e = .unreadable e' ∧ (reader.read path = .error e' ∨ reader.resolve path = .error e')) ∨
      ∃ content source, compile [] (.octets content) given (some source) = .error e := by
  simp only [Registry.compileFile, bind_eq_error_iff, mapError_eq_error_iff,
    mapError_eq_ok_iff] at h
  rcases h with ⟨e', hread, rfl⟩ | ⟨content, -, ⟨e', hresolve, rfl⟩ | ⟨source, -, h⟩⟩
  · exact .inl ⟨e', rfl, .inl hread⟩
  · exact .inl ⟨e', rfl, .inr hresolve⟩
  · exact .inr ⟨content, source.text, h⟩

theorem fileLoad?_eq_some {reader : Files.Reader} {path : String} {given : Option String}
    {l : Loaded} (h : Registry.compileFile reader path given = .ok l) :
    ∃ content, fileLoad? reader path given = some ⟨.octets content, l⟩ ∧
      Load.IsRepeatable ⟨.octets content, l⟩ := by
  obtain ⟨content, source, hread, _, hcompile⟩ := compileFile_eq_ok_iff.mp h
  exact ⟨content, by simp only [fileLoad?, hread, h], isRepeatable_of_compile hcompile⟩

theorem fileLoad?_eq_none {reader : Files.Reader} {path : String} {given : Option String}
    {e : LoadError} (h : Registry.compileFile reader path given = .error e) :
    fileLoad? reader path given = none := by
  cases hread : reader.read path <;> simp only [fileLoad?, hread, h]

namespace Registry

theorem loadFile_eq (r : Registry) (reader : Files.Reader) (path : String)
    (given : Option String) :
    r.loadFile reader path given =
      (compileFile reader path given).map (fun l => (l, r.insert l)) := by
  unfold loadFile
  cases compileFile reader path given <;> rfl

theorem load_eq (r : Registry) (place : Files.Path) (d : Document)
    (given source : Option String) :
    r.load place d given source =
      (compile place d given source).map (fun l => (l, r.insert l)) := by
  unfold load
  cases compile place d given source <;> rfl

theorem enter_append (r : Registry) (before after : List Load) :
    r.enter (before ++ after) = (r.enter before).enter after :=
  List.foldl_append

/-! ## Files of a directory -/

variable {reader : Files.Reader}

theorem loadFiles_cons_ok {p : Files.Path} {l : Loaded} (h : compileListed reader p = .ok l)
    (r : Registry) (rest : List Files.Path) :
    loadFiles reader r (p :: rest) = { loadFiles reader (r.insert l) rest with
      loaded := l :: (loadFiles reader (r.insert l) rest).loaded } := by
  have hp : r.loadFile reader p.text (some (identifierOfFile (p.getLast?.getD ""))) =
      .ok (l, r.insert l) := by
    rw [loadFile_eq]
    exact congrArg (Except.map _) h
  simp only [loadFiles, hp]

theorem loadFiles_cons_error {p : Files.Path} {e : LoadError}
    (h : compileListed reader p = .error e) (r : Registry) (rest : List Files.Path) :
    loadFiles reader r (p :: rest) = ⟨[], r, some e⟩ := by
  have hp : r.loadFile reader p.text (some (identifierOfFile (p.getLast?.getD ""))) =
      .error e := by
    rw [loadFile_eq]
    exact congrArg (Except.map _) h
  simp only [loadFiles, hp]

theorem directoryLoads_cons_ok {p : Files.Path} {l : Loaded} (h : compileListed reader p = .ok l) :
    ∃ content, (Call.ofFile reader p).loads = [⟨.octets content, l⟩] ∧
      ∀ rest, directoryLoads reader (p :: rest) =
        ⟨.octets content, l⟩ :: directoryLoads reader rest := by
  obtain ⟨content, hp, _⟩ := fileLoad?_eq_some h
  refine ⟨content, ?_, fun rest => ?_⟩
  · rw [Call.ofFile, Call.loads, hp]
    rfl
  · rw [directoryLoads, hp]

theorem directoryLoads_cons_error {p : Files.Path} {e : LoadError}
    (h : compileListed reader p = .error e) (rest : List Files.Path) :
    directoryLoads reader (p :: rest) = [] := by
  rw [directoryLoads, fileLoad?_eq_none h]

/-- The load of some files enters those before the first that fails. -/
theorem loadFiles_eq (reader : Files.Reader) (r : Registry) (paths : List Files.Path) :
    (loadFiles reader r paths).registry = r.enter (directoryLoads reader paths) ∧
    (loadFiles reader r paths).loaded = (directoryLoads reader paths).map (·.loaded) := by
  induction paths generalizing r with
  | nil => exact ⟨rfl, rfl⟩
  | cons p rest ih =>
    cases hp : compileListed reader p with
    | error e =>
      rw [loadFiles_cons_error hp, directoryLoads_cons_error hp]
      exact ⟨rfl, rfl⟩
    | ok l =>
      obtain ⟨content, _, hl⟩ := directoryLoads_cons_ok hp
      obtain ⟨hregistry, hloaded⟩ := ih (r.insert l)
      rw [loadFiles_cons_ok hp, hl]
      exact ⟨hregistry, congrArg (l :: ·) hloaded⟩

/-- The load of some files succeeds with all of them, or fails with the first that fails and has
entered those before it. -/
theorem loadFiles_cases (reader : Files.Reader) (r : Registry) (paths : List Files.Path) :
    ((loadFiles reader r paths).failure = none ∧
      (∀ q ∈ paths, ∃ l, compileListed reader q = .ok l) ∧
      directoryLoads reader paths = paths.flatMap fun q => (Call.ofFile reader q).loads) ∨
    ∃ before p rest e, (loadFiles reader r paths).failure = some e ∧ paths = before ++ p :: rest ∧
      (∀ q ∈ before, ∃ l, compileListed reader q = .ok l) ∧ compileListed reader p = .error e ∧
      directoryLoads reader paths = before.flatMap fun q => (Call.ofFile reader q).loads := by
  -- the registry that the files are entered into changes from one to the next
  induction paths generalizing r with
  | nil => exact .inl ⟨rfl, fun q hq => absurd hq List.not_mem_nil, rfl⟩
  | cons p rest ih =>
    cases hp : compileListed reader p with
    | error e =>
      refine .inr ⟨[], p, rest, e, ?_, rfl, fun q hq => absurd hq List.not_mem_nil, hp, ?_⟩
      · rw [loadFiles_cons_error hp]
      · exact directoryLoads_cons_error hp rest
    | ok l =>
      obtain ⟨content, hloads, hl⟩ := directoryLoads_cons_ok hp
      rw [loadFiles_cons_ok hp, hl]
      rcases ih (r.insert l) with
        ⟨hnone, hall, hrest⟩ | ⟨before, q, rest, e, he, rfl, hbefore, hq, hrest⟩
      · refine .inl ⟨hnone, List.forall_mem_cons.mpr ⟨⟨l, hp⟩, hall⟩, ?_⟩
        rw [List.flatMap_cons, hloads, hrest]
        rfl
      · refine .inr ⟨p :: before, q, rest, e, he, rfl,
          List.forall_mem_cons.mpr ⟨⟨l, hp⟩, hbefore⟩, hq, ?_⟩
        rw [List.flatMap_cons, hloads, hrest]
        rfl

theorem ne_pattern_of_resolve {written : String} {e : Files.ReadError}
    (h : reader.resolve written = .error e) (p : Files.PatternError) : e ≠ .pattern p := by
  rcases Files.Reader.resolve_error_cases h with rfl | rfl <;> simp

/-- The files of a directory are never refused for the pattern of their names. -/
theorem failure_loadAll_ne_pattern {r : Registry} {directory : String} {e : LoadError}
    (h : (r.loadAll reader directory).failure = some e) (p : Files.PatternError) :
    e ≠ .unreadable (.pattern p) := by
  rintro rfl
  rw [loadAll] at h
  split at h
  · rename_i e' hlist
    cases h
    rcases Files.Reader.list_error_cases hlist with
      hresolve | ⟨q, hq⟩ | ⟨q, -, hq | ⟨p', hselect, -⟩⟩
    · exact ne_pattern_of_resolve hresolve p rfl
    · cases hq
    · cases hq
    · cases hselect
  · rename_i paths hlist
    -- a file is read by its own path, which is no pattern
    rcases loadFiles_cases reader r paths with ⟨hnone, -⟩ | ⟨_, q, _, e, he, -, -, hq, -⟩
    · rw [hnone] at h
      cases h
    · rw [h] at he
      cases he
      rcases compileFile_error_cases hq with ⟨e', he', hread | hresolve⟩ | ⟨content, source, hc⟩
      · cases he'
        rcases Files.Reader.read_error_cases hread with hresolve | ⟨_, -, h | h⟩
        · exact ne_pattern_of_resolve hresolve p rfl
        · cases h
        · cases h
      · cases he'
        exact ne_pattern_of_resolve hresolve p rfl
      · cases eq_embeddedNull_of_compile hc

end Registry

/-! ## Loads under an identifier -/

theorem last?_append (loads : List Load) (l : Load) (id : String) :
    last? (loads ++ [l]) id = if l.id = id then some l else last? loads id := by
  rw [last?, List.reverse_append, List.reverse_singleton, List.singleton_append, List.find?_cons]
  by_cases h : l.id = id
  · simp [h]
  · have hne : (l.id == id) = false := by simpa using h
    rw [hne, if_neg h]
    rfl

/-- The last load under an identifier is one of the loads, and none that follows it is under that
identifier. -/
theorem last?_eq_some_iff {loads : List Load} {id : String} {l : Load} :
    last? loads id = some l ↔ l.id = id ∧ ∃ before after, loads = before ++ l :: after ∧
      ∀ l' ∈ after, l'.id ≠ id := by
  rw [last?, List.find?_eq_some_iff_append, beq_iff_eq]
  refine and_congr_right fun _ => ⟨?_, ?_⟩
  · rintro ⟨as, bs, h, has⟩
    refine ⟨bs.reverse, as.reverse, ?_, fun l' hl' => ?_⟩
    · rw [← List.reverse_reverse loads, h]
      simp
    · simpa using has l' (List.mem_reverse.mp hl')
  · rintro ⟨before, after, rfl, hafter⟩
    refine ⟨after.reverse, before.reverse, by simp, fun l' hl' => ?_⟩
    simpa using hafter l' (List.mem_reverse.mp hl')

theorem last?_isSome_iff {loads : List Load} {id : String} :
    (last? loads id).isSome = true ↔ ∃ l ∈ loads, l.id = id := by
  simp only [last?, List.find?_isSome, List.mem_reverse, beq_iff_eq]

theorem keys_setEntry (id : String) (c : Compiled) (entries : List (String × Compiled)) :
    (setEntry id c entries).map (·.1) =
      if id ∈ entries.map (·.1) then entries.map (·.1) else entries.map (·.1) ++ [id] := by
  induction entries with
  | nil => simp [setEntry]
  | cons e rest ih =>
    obtain ⟨k, d⟩ := e
    by_cases h : k = id
    · simp [setEntry, h]
    · have hne : id ≠ k := Ne.symm h
      rw [setEntry, if_neg h, List.map_cons, ih]
      by_cases hmem : id ∈ rest.map (·.1) <;> simp [hne, hmem]

namespace Registry

/-- The identifiers that are listed are those with an entry. -/
theorem mem_ids_iff {r : Registry} {id : String} :
    id ∈ r.ids ↔ (r.compiled? id).isSome = true := by
  rw [ids, Text.mem_sort, compiled?, List.lookup_isSome_iff, List.mem_map]
  simp only [beq_iff_eq, eq_comm (a := id)]

/-- A registry is the finite map of some loads. -/
structure Maps (r : Registry) (loads : List Load) : Prop where
  nodup : (r.entries.map (·.1)).Nodup
  compiled?_eq : ∀ id : String, r.compiled? id = (last? loads id).map (·.loaded.schema)

theorem maps_empty : Maps empty [] :=
  ⟨List.nodup_nil, fun _ => rfl⟩

/-- One load more is entered. -/
theorem Maps.insert {r : Registry} {loads : List Load} (h : r.Maps loads) (l : Load) :
    (r.insert l.loaded).Maps (loads ++ [l]) where
  nodup := by
    show ((setEntry _ _ _).map (·.1)).Nodup
    rw [keys_setEntry]
    split
    · exact h.nodup
    -- a new identifier is put behind the others
    · rename_i hnot
      refine List.nodup_append.mpr ⟨h.nodup, List.nodup_singleton _, fun k hk k' hk' he => ?_⟩
      rw [List.mem_singleton.mp hk'] at he
      exact hnot (he ▸ hk)
  compiled?_eq id := by
    rw [last?_append]
    by_cases hid : l.id = id
    · subst hid
      rw [if_pos rfl]
      exact compiled?_insert_self r l.loaded
    · rw [if_neg hid, ← h.compiled?_eq id]
      exact compiled?_insert_of_ne r l.loaded (Ne.symm hid)

theorem Maps.enter {r : Registry} {loads : List Load} (h : r.Maps loads) (more : List Load) :
    (r.enter more).Maps (loads ++ more) := by
  induction more generalizing r loads with
  | nil => rwa [List.append_nil]
  | cons l more ih =>
    have := ih (h.insert l)
    rwa [List.append_assoc] at this

/-! ## Calls and loads -/

/-- A call enters its loads. -/
theorem call_eq (r : Registry) (c : Call) : (r.call c).2 = r.enter c.loads := by
  cases c with
  | load place d given source =>
    rw [call, load_eq, Call.loads]
    cases compile place d given source <;> rfl
  | loadFile reader path given =>
    rw [call, loadFile_eq, Call.loads]
    cases h : compileFile reader path given with
    | error e =>
      rw [fileLoad?_eq_none h]
      rfl
    | ok l =>
      obtain ⟨content, hl, _⟩ := fileLoad?_eq_some h
      rw [hl]
      rfl
  | loadAll reader directory =>
    rw [call, Call.loads, loadAll]
    cases reader.list directory "*.json" with
    | error e => rfl
    -- the files up to the first that fails
    | ok paths => exact (loadFiles_eq reader r paths).1
  | validate id v => rfl
  | assertValid id v => rfl
  | schema id => rfl

theorem after_eq (r : Registry) (calls : List Call) :
    r.after calls = r.enter (calls.flatMap Call.loads) := by
  induction calls generalizing r with
  | nil => rfl
  | cons c calls ih =>
    rw [List.flatMap_cons, enter_append, ← call_eq, ← ih]
    rfl

end Registry

/-! ## Answers -/

namespace Registry

theorem answersAlike_of_compiled? {r r' : Registry} {id : String} {c : Compiled}
    (h : r.compiled? id = some c) (h' : r'.compiled? id = some c) : AnswersAlike r r' id := by
  have hget : r.get id = r'.get id := by rw [get, get, h, h']
  have hvalidate (v : Value) : r.validate id v = r'.validate id v := by
    rw [validate, validate, hget]
  refine ⟨?_, fun v => ⟨hvalidate v, ?_⟩⟩
  · rw [schema, schema, hget]
  · rw [assertValid, assertValid, hvalidate v]

theorem isUnknown_of_compiled? {r : Registry} {id : String} (h : r.compiled? id = none) :
    r.IsUnknown id := by
  have hget : r.get id = .error (.notLoaded id r.ids) := by rw [get, h]
  have hvalidate (v : Value) : r.validate id v = .error (.notLoaded id r.ids) := by
    rw [validate, hget]
    rfl
  refine ⟨?_, fun v => ⟨hvalidate v, ?_⟩⟩
  · rw [schema, hget]
    rfl
  · rw [assertValid, hvalidate v]

theorem Maps.mem_ids_iff {r : Registry} {loads : List Load} (h : r.Maps loads) {id : String} :
    id ∈ r.ids ↔ (last? loads id).isSome = true := by
  rw [Registry.mem_ids_iff, h.compiled?_eq, Option.isSome_map]

/-- What is found under an identifier is found in a registry with only the last load under it. -/
theorem Maps.refines {r : Registry} {loads : List Load} (h : r.Maps loads)
    (hrepeat : ∀ l ∈ loads, l.IsRepeatable) : r.Refines loads where
  sorted := Text.pairwise_sort h.nodup
  mem_ids id := h.mem_ids_iff.trans last?_isSome_iff
  contains_iff _ := Registry.mem_ids_iff.symm
  outside id hid := by
    rw [Registry.mem_ids_iff] at hid
    exact isUnknown_of_compiled? (Option.not_isSome_iff_eq_none.mp hid)
  inside id hid := by
    obtain ⟨l, hlast⟩ := Option.isSome_iff_exists.mp (h.mem_ids_iff.mp hid)
    obtain ⟨hlid, before, after, hloads, hafter⟩ := last?_eq_some_iff.mp hlast
    have hl : l ∈ loads := hloads ▸ List.mem_append_right before List.mem_cons_self
    -- a registry of its own has the last load under the identifier, and answers as this one does
    refine ⟨before, l, after, hloads, hlid, hafter, fun place =>
      ⟨empty.insert l.loaded, ?_, ?_, ?_⟩⟩
    · rw [load_eq, ← hlid, hrepeat l hl place]
      rfl
    · rw [← hlid]
      exact List.mergeSort_singleton l.id
    · refine answersAlike_of_compiled? (c := l.loaded.schema) ?_ ?_
      · rw [h.compiled?_eq, hlast]
        rfl
      · rw [← hlid]
        exact compiled?_insert_self empty l.loaded

end Registry

/-! ## Histories -/

theorem isRepeatable_of_fileLoad? {reader : Files.Reader} {path : String} {given : Option String}
    {l : Load} (h : fileLoad? reader path given = some l) : l.IsRepeatable := by
  cases hc : Registry.compileFile reader path given with
  | error e =>
    rw [fileLoad?_eq_none hc] at h
    cases h
  | ok l' =>
    obtain ⟨content, hl, hrepeat⟩ := fileLoad?_eq_some hc
    rw [hl] at h
    cases h
    exact hrepeat

theorem isRepeatable_of_mem_directoryLoads {reader : Files.Reader} {paths : List Files.Path}
    {l : Load} (h : l ∈ directoryLoads reader paths) : l.IsRepeatable := by
  induction paths with
  | nil => cases h
  | cons p rest ih =>
    rw [directoryLoads] at h
    split at h
    · cases h
    · rename_i l' hl'
      rcases List.mem_cons.mp h with rfl | hrest
      · exact isRepeatable_of_fileLoad? hl'
      · exact ih hrest

/-- What a call loads can be loaded again. -/
theorem isRepeatable_of_mem_loads {c : Call} {l : Load} (h : l ∈ c.loads) : l.IsRepeatable := by
  cases c with
  | load place d given source =>
    cases hc : compile place d given source with
    | error e =>
      rw [Call.loads, hc] at h
      cases h
    | ok l' =>
      rw [Call.loads, hc] at h
      obtain rfl := List.mem_singleton.mp h
      exact isRepeatable_of_compile hc
  | loadFile reader path given => exact isRepeatable_of_fileLoad? (Option.mem_toList.mp h)
  | loadAll reader directory =>
    rw [Call.loads] at h
    split at h
    · cases h
    · exact isRepeatable_of_mem_directoryLoads h
  | validate id v => cases h
  | assertValid id v => cases h
  | schema id => cases h

namespace Registry

/-- What a registry is after some calls. -/
theorem refines_after (calls : List Call) :
    (empty.after calls).Refines (calls.flatMap Call.loads) := by
  rw [after_eq]
  refine (maps_empty.enter _).refines fun l hl => ?_
  obtain ⟨c, _, hc⟩ := List.mem_flatMap.mp hl
  exact isRepeatable_of_mem_loads hc

theorem call_ofFile (r : Registry) (reader : Files.Reader) (p : Files.Path) :
    (r.call (.ofFile reader p)).1 = .loaded ((compileListed reader p).map (·.id)) := by
  rw [Call.ofFile, call, loadFile_eq]
  change _ = Answer.loaded ((compileFile reader p.text (some (idOf p))).map _)
  cases compileFile reader p.text (some (idOf p)) <;> rfl

theorem exists_call_ofFile {reader : Files.Reader} {paths : List Files.Path}
    (h : ∀ q ∈ paths, ∃ l, compileListed reader q = .ok l) (r : Registry) :
    ∀ q ∈ paths, ∃ id, (r.call (.ofFile reader q)).1 = .loaded (.ok id) := by
  intro q hq
  obtain ⟨l, hl⟩ := h q hq
  exact ⟨l.id, by rw [call_ofFile, hl]; rfl⟩

theorem enter_flatMap_ofFile (r : Registry) (reader : Files.Reader) (paths : List Files.Path) :
    r.enter (paths.flatMap fun q => (Call.ofFile reader q).loads) =
      r.after (paths.map (.ofFile reader)) := by
  rw [after_eq, List.flatMap_map]

/-- A load of one document answers with its identifier, or fails and loads nothing. -/
theorem call_single (r : Registry) (c : Call) {id : Except LoadError String}
    (h : (r.call c).1 = .loaded id) :
    (∃ t, id = .ok t ∧ c.loads.map Load.id = [t]) ∨ (∃ e, id = .error e) ∧ c.loads = [] := by
  cases c with
  | load place d given source =>
    rw [call, load_eq] at h
    rw [Call.loads]
    cases hc : compile place d given source with
    | error e =>
      rw [hc] at h
      cases h
      exact .inr ⟨⟨e, rfl⟩, rfl⟩
    | ok l =>
      rw [hc] at h
      cases h
      exact .inl ⟨l.id, rfl, rfl⟩
  | loadFile reader path given =>
    rw [call, loadFile_eq] at h
    rw [Call.loads]
    cases hc : compileFile reader path given with
    | error e =>
      rw [hc] at h
      cases h
      exact .inr ⟨⟨e, rfl⟩, by rw [fileLoad?_eq_none hc]; rfl⟩
    | ok l =>
      obtain ⟨content, hl, _⟩ := fileLoad?_eq_some hc
      rw [hc] at h
      cases h
      exact .inl ⟨l.id, rfl, by rw [hl]; rfl⟩
  | loadAll reader directory => cases h
  | validate id v => cases h
  | assertValid id v => cases h
  | schema id => cases h

/-- A load of a directory loads all its files, or those before the first that fails. -/
theorem call_loadAll (r : Registry) (reader : Files.Reader) (directory : String) :
    let c := Call.loadAll reader directory
    (∃ e, reader.list directory "*.json" = .error e ∧
      (r.call c).1 = .loadedAll (.error (.unreadable e)) ∧ c.loads = []) ∨
    (∃ paths, reader.list directory "*.json" = .ok paths ∧
      (r.call c).1 = .loadedAll (.ok (c.loads.map Load.id)) ∧
      (∀ p ∈ paths, ∃ l, compileListed reader p = .ok l) ∧
      c.loads = paths.flatMap fun q => (Call.ofFile reader q).loads) ∨
    ∃ before p rest e, reader.list directory "*.json" = .ok (before ++ p :: rest) ∧
      (r.call c).1 = .loadedAll (.error e) ∧
      (∀ q ∈ before, ∃ l, compileListed reader q = .ok l) ∧ compileListed reader p = .error e ∧
      c.loads = before.flatMap fun q => (Call.ofFile reader q).loads := by
  simp only [call, Call.loads, loadAll]
  cases hlist : reader.list directory "*.json" with
  | error e => exact .inl ⟨e, rfl, rfl, rfl⟩
  | ok paths =>
    refine .inr ?_
    rcases loadFiles_cases reader r paths with
      ⟨hnone, hall, hloads⟩ | ⟨before, p, rest, e, he, rfl, hbefore, hp, hloads⟩
    · refine .inl ⟨paths, rfl, ?_, hall, hloads⟩
      rw [hnone, (loadFiles_eq reader r paths).2, List.map_map]
      rfl
    · refine .inr ⟨before, p, rest, e, rfl, ?_, hbefore, hp, hloads⟩
      rw [he]

/-- Loads under other identifiers leave an entry alone. -/
theorem compiled?_enter_of_not_mem {loads : List Load} {id : String}
    (h : id ∉ loads.map Load.id) (r : Registry) :
    (r.enter loads).compiled? id = r.compiled? id := by
  induction loads generalizing r with
  | nil => rfl
  | cons l loads ih =>
    rw [List.map_cons, List.mem_cons, not_or] at h
    obtain ⟨hne, hrest⟩ := h
    exact (ih hrest (r.insert l.loaded)).trans (compiled?_insert_of_ne r l.loaded hne)

/-- What one call answers and leaves. -/
theorem serves_call (r : Registry) (c : Call) : r.Serves c (r.call c).1 (r.call c).2 where
  single id ha := by
    rcases call_single r c ha with ⟨t, ht, hloads⟩ | ⟨⟨e, he⟩, _⟩
    · cases ht
      exact hloads
    · cases he
  refused e ha := by
    rcases call_single r c ha with ⟨t, ht, _⟩ | ⟨_, hloads⟩
    · cases ht
    · exact ⟨hloads, by rw [call_eq, hloads]; rfl⟩
  completed reader directory ids hc ha := by
    subst hc
    rcases call_loadAll r reader directory with
      ⟨e, _, he, _⟩ | ⟨paths, hlist, hids, hall, hloads⟩ | ⟨_, _, _, e, _, he, _⟩
    · rw [he] at ha
      cases ha
    · rw [hids] at ha
      cases ha
      refine ⟨rfl, paths, hlist, exists_call_ofFile hall r, ?_⟩
      rw [call_eq, hloads, enter_flatMap_ofFile]
    · rw [he] at ha
      cases ha
  halted reader directory e hc ha := by
    subst hc
    rcases call_loadAll r reader directory with
      ⟨e', hlist, he, hloads⟩ | ⟨_, _, hids, _⟩ |
      ⟨before, p, rest, e', hlist, he, hbefore, hp, hloads⟩
    · rw [he] at ha
      cases ha
      exact .inl ⟨e', hlist, rfl, hloads, by rw [call_eq, hloads]; rfl⟩
    · rw [hids] at ha
      cases ha
    · rw [he] at ha
      cases ha
      refine .inr ⟨before, p, rest, hlist, exists_call_ofFile hbefore r, ?_, hloads, ?_⟩
      · rw [call_ofFile, hp]
        rfl
      · rw [call_eq, hloads, enter_flatMap_ofFile]
  others id hother hid := by
    rw [mem_ids_iff] at hid
    obtain ⟨compiled, hcompiled⟩ := Option.isSome_iff_exists.mp hid
    refine answersAlike_of_compiled? ?_ hcompiled
    -- what is entered has other identifiers
    rw [call_eq, compiled?_enter_of_not_mem hother, hcompiled]
  asked hc := by
    cases c with
    | load => exact hc.elim
    | loadFile => exact hc.elim
    | loadAll => exact hc.elim
    | validate => rfl
    | assertValid => rfl
    | schema => rfl

/-- After every sequence of calls, some of which fail, a registry is the finite map from the
identifiers under which a load has succeeded to the documents that were loaded last under them, and
it serves every further call without regard to its history. -/
theorem registry_history (calls : List Call) :
    let r := empty.after calls
    r.Refines (calls.flatMap Call.loads) ∧ ∀ c, r.Serves c (r.call c).1 (r.call c).2 :=
  ⟨refines_after calls, serves_call _⟩

end Registry

end ContractDrift.Schema
