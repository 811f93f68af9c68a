/-
Loading a directory of schemas.

The files of a directory are loaded in the order of their names, each under its name without the
ending (`IsStem`).  Two names can have one stem: then the file that is loaded last has it.
`loadAll_directory` states what is loaded, under which identifiers, when these are distinct, and
what is found under them afterwards.

Design notes: the files of a directory are determined by its tree, since they are sorted and none
comes twice (`AreFilesOf.names_eq`), so the theorem speaks of them and not of the list that a
reader answers.  A name that is nothing but an ending has an empty stem, which is no identifier;
the schema's own identifier or the path of the file stands in for it.
-/
import ContractDrift.Proofs.Files.Listing
import ContractDrift.Proofs.Schema.History

namespace ContractDrift.Schema

open ContractDrift.Json (Members Value)
open ContractDrift.Text (Octets)

/-! ## Stems -/

/-- What is left of the name of a schema's file without its ending; of the two endings the longer
one is taken off where it is there. -/
def IsStem (name stem : String) : Prop :=
  name = stem ++ ".schema.json" ∨
    name = stem ++ ".json" ∧ ¬ ".schema.json".toList <:+ name.toList

theorem withoutEnding?_append (stem ending : List Char) :
    withoutEnding? ending (stem ++ ending) = some stem := by
  rw [withoutEnding?, if_pos (Text.endsWith_iff.mpr (List.suffix_append stem ending))]
  simp

theorem withoutEnding?_of_not_suffix {ending name : List Char} (h : ¬ ending <:+ name) :
    withoutEnding? ending name = none := by
  rw [withoutEnding?, if_neg (Text.endsWith_iff.not.mpr h)]

/-- A stem is what a file's schema is called. -/
theorem identifierOfFile_of_isStem {name stem : String} (h : IsStem name stem) :
    identifierOfFile name = stem := by
  have hfound : fileEndings.findSome? (withoutEnding? · name.toList) = some stem.toList := by
    rcases h with rfl | ⟨rfl, hnot⟩
    · rw [fileEndings, List.findSome?_cons, String.toList_append, withoutEnding?_append]
    · rw [fileEndings, List.findSome?_cons, withoutEnding?_of_not_suffix hnot]
      simp only [List.findSome?_cons, String.toList_append, withoutEnding?_append]
  simp only [identifierOfFile, hfound, String.ofList_toList]

theorem exists_isStem {name : String} (h : ".json".toList <:+ name.toList) :
    ∃ stem, IsStem name stem := by
  by_cases hlong : ".schema.json".toList <:+ name.toList
  · obtain ⟨stem, hstem⟩ := hlong
    refine ⟨String.ofList stem, .inl (String.toList_inj.mp ?_)⟩
    rw [String.toList_append, String.toList_ofList, hstem]
  · obtain ⟨stem, hstem⟩ := h
    refine ⟨String.ofList stem, .inr ⟨String.toList_inj.mp ?_, hlong⟩⟩
    rw [String.toList_append, String.toList_ofList, hstem]

theorem isStem_identifierOfFile {name : String} (h : ".json".toList <:+ name.toList) :
    IsStem name (identifierOfFile name) := by
  obtain ⟨stem, hstem⟩ := exists_isStem h
  rwa [identifierOfFile_of_isStem hstem]

/-- A name has the longer ending if what comes before the shorter one ends in the rest of it. -/
theorem suffix_append_json_iff {stem : String} :
    ".schema.json".toList <:+ (stem ++ ".json").toList ↔ ".schema".toList <:+ stem.toList := by
  have hsplit : ".schema.json".toList = ".schema".toList ++ ".json".toList := by rfl
  rw [hsplit, String.toList_append, List.suffix_append_inj_of_length_eq rfl]
  exact and_iff_left rfl

theorem isStem_append_json {stem : String} (h : ¬ ".schema".toList <:+ stem.toList) :
    IsStem (stem ++ ".json") stem :=
  .inr ⟨rfl, suffix_append_json_iff.not.mpr h⟩

/-- Two names have one stem only if they have it with the two endings. -/
theorem isStem_cases {a b stem : String} (ha : IsStem a stem) (hb : IsStem b stem) (hne : a ≠ b) :
    ¬ ".schema".toList <:+ stem.toList ∧
      (a = stem ++ ".json" ∧ b = stem ++ ".schema.json" ∨
        a = stem ++ ".schema.json" ∧ b = stem ++ ".json") := by
  rcases ha with rfl | ⟨rfl, hnota⟩ <;> rcases hb with rfl | ⟨rfl, hnotb⟩
  · exact absurd rfl hne
  · exact ⟨suffix_append_json_iff.not.mp hnotb, .inr ⟨rfl, rfl⟩⟩
  · exact ⟨suffix_append_json_iff.not.mp hnota, .inl ⟨rfl, rfl⟩⟩
  · exact absurd rfl hne

/-! ## Schema files -/

/-- A file of a schema, with what it holds. -/
structure SchemaFile where
  name : String
  content : Octets
  document : Members

/-- A content is a valid schema. -/
structure IsSchema (content : Octets) (m : Members) : Prop where
  parse : Json.parseOctets content = .ok (.object m)
  dialect_text : checkText m "$schema" = .ok ()
  own_text : checkText m "$id" = .ok ()
  valid : check m = .ok none

/-- The identifier that a schema gives itself; an empty one is none. -/
def ownIdentifier? (m : Members) : Option String := nonEmpty? ((m.get? "$id").bind Value.text?)

namespace SchemaFile

/-- A file of a directory that is named as a schema's is. -/
structure IsIn (f : SchemaFile) (t : Files.Tree) (p : Files.Path) : Prop where
  ending : ".json".toList <:+ f.name.toList
  file : t.file? (p ++ [f.name]) = some f.content
  document : Json.parseOctets f.content = .ok (.object f.document)

/-- The identifier that a file of a directory is loaded under: its stem, or what stands in for an
empty one. -/
def id (p : Files.Path) (f : SchemaFile) : String :=
  if identifierOfFile f.name = "" then
    (ownIdentifier? f.document).getD (Files.Path.text (p ++ [f.name]))
  else identifierOfFile f.name

/-- The load of a file of a directory. -/
def load (p : Files.Path) (f : SchemaFile) : Load :=
  ⟨.octets f.content, ⟨f.id p, Compiled.ofDocument f.document⟩⟩

end SchemaFile

/-- A directory of a reader whose schema files are all valid, and whose paths can be looked up.
A reader of the whole tree gives access to no file, so its root is another. -/
structure IsSchemaDirectory (reader : Files.Reader) (directory : String) (p : Files.Path) :
    Prop where
  tree : reader.tree.IsCanonical
  root : reader.root.IsCanonical
  root_ne : reader.root ≠ []
  resolve : reader.resolve directory = .ok p
  isDirectory : reader.tree.isDirectory p = true
  length : reader.tree.isTooLong p = false
  lengths : ∀ name ∈ reader.tree.names p, reader.tree.isTooLong (p ++ [name]) = false
  valid : ∀ name content, ".json".toList <:+ name.toList →
    reader.tree.file? (p ++ [name]) = some content → ∃ m, IsSchema content m

variable {reader : Files.Reader} {directory : String} {p : Files.Path} {f : SchemaFile}
  {files : List SchemaFile}

theorem SchemaFile.IsIn.isSchema (hf : f.IsIn reader.tree p)
    (h : IsSchemaDirectory reader directory p) : IsSchema f.content f.document := by
  obtain ⟨m, hm⟩ := h.valid f.name f.content hf.ending hf.file
  have hdocument : f.document = m :=
    Value.object.inj (Except.ok.inj (hf.document.symm.trans hm.parse))
  rwa [hdocument]

/-- A path in full stands for itself, wherever it is resolved. -/
theorem sourceIdentifier_text {q : Files.Path} (hq : q.IsCanonical) (place : Files.Path) :
    sourceIdentifier place q.text = .ok q.text := by
  have hnull := Files.no_null_text hq.isWritten
  rw [sourceIdentifier, if_neg (by simpa using hnull), Files.resolve_text hq.isWritten,
    Files.normalize_of_not_mem hq.not_mem_back]

/-- The identifier of a file of a directory, from its name, its document and its path. -/
theorem identifier_eq (hq : Files.Path.IsCanonical (p ++ [f.name])) :
    identifier [] f.document (some (idOf (p ++ [f.name])))
      (some (Files.Path.text (p ++ [f.name]))) = .ok (f.id p) := by
  have hname : idOf (p ++ [f.name]) = identifierOfFile f.name := by
    rw [idOf, List.getLast?_concat]
    rfl
  have hsource := sourceIdentifier_text hq []
  rw [hname, SchemaFile.id]
  -- an empty stem is no identifier: what stands in for it is looked for
  by_cases hempty : identifierOfFile f.name = ""
  · have hgiven : nonEmpty? (some (identifierOfFile f.name)) = none := by
      rw [hempty]
      rfl
    simp only [identifier, hgiven, Option.orElse_none, if_pos hempty]
    cases hown : ownIdentifier? f.document with
    | none =>
      rw [ownIdentifier?] at hown
      simp only [hown, hsource]
      rfl
    | some own =>
      rw [ownIdentifier?] at hown
      simp only [hown]
      rfl
  · have hgiven : nonEmpty? (some (identifierOfFile f.name)) = some (identifierOfFile f.name) := by
      simp [nonEmpty?, hempty]
    simp only [identifier, hgiven, Option.orElse_some, if_neg hempty]

/-- A file of a directory of schemas is loaded. -/
theorem compileListed_of_isIn (h : IsSchemaDirectory reader directory p)
    (hf : f.IsIn reader.tree p) :
    compileListed reader (p ++ [f.name]) = .ok (f.load p).loaded ∧
      fileLoad? reader (Files.Path.text (p ++ [f.name])) (some (idOf (p ++ [f.name]))) =
        some (f.load p) := by
  have hq : Files.Path.IsCanonical (p ++ [f.name]) := h.tree.of_file? hf.file
  have hsame : Files.normalize (p ++ [f.name]) = p ++ [f.name] :=
    Files.normalize_of_not_mem hq.not_mem_back
  -- below the root, so the file is read by its path
  have hinside : reader.IsInside (p ++ [f.name]) := by
    obtain ⟨below, hp⟩ :=
      (Files.Reader.isContained_of_resolve h.root h.resolve).exists_eq_append
    rw [hp, List.append_assoc]
    exact Files.Reader.isInside_append h.root_ne _
  have hserved : Files.Reader.IsServed reader (p ++ [f.name]) f.content := by
    have hlength := h.lengths f.name (Files.Tree.mem_names_of_file? hf.file)
    exact Files.Reader.isServed_of_file h.root hq.isWritten (by rwa [hsame])
      (by rw [hsame, hf.file])
  obtain ⟨hresolve, hread⟩ := hserved.inside (by rwa [hsame])
  have hschema := hf.isSchema h
  have hcompile : compile [] (.octets f.content) (some (idOf (p ++ [f.name])))
      (some (Files.Path.text (Files.normalize (p ++ [f.name])))) = .ok (f.load p).loaded := by
    rw [hsame]
    exact compile_eq_ok_iff.mpr ⟨f.document, members_octets_eq_ok_iff.mpr hschema.parse,
      hschema.dialect_text, hschema.own_text, identifier_eq hq, hschema.valid, rfl⟩
  have hlisted : compileListed reader (p ++ [f.name]) = .ok (f.load p).loaded :=
    compileFile_eq_ok_iff.mpr ⟨f.content, _, hread, hresolve, hcompile⟩
  refine ⟨hlisted, ?_⟩
  rw [compileListed] at hlisted
  simp only [fileLoad?, hread, hlisted]
  rfl

/-! ## The files of a directory -/

theorem directoryLoads_eq (h : IsSchemaDirectory reader directory p)
    (hfiles : ∀ f ∈ files, f.IsIn reader.tree p) :
    directoryLoads reader (files.map fun f => p ++ [f.name]) = files.map (·.load p) := by
  induction files with
  | nil => rfl
  | cons f files ih =>
    rw [List.forall_mem_cons] at hfiles
    have hf := (compileListed_of_isIn h hfiles.1).2
    rw [List.map_cons, directoryLoads, hf, List.map_cons, ih hfiles.2]

/-- The schema files of a directory, in the order of their names. -/
structure AreFilesOf (files : List SchemaFile) (t : Files.Tree) (p : Files.Path) : Prop where
  sorted : (files.map (·.name)).Pairwise Text.Precedes
  mem_iff : ∀ f, f ∈ files ↔ f.IsIn t p

/-- A file of a directory is determined by its name. -/
theorem SchemaFile.IsIn.eq {t : Files.Tree} {f g : SchemaFile} (hf : f.IsIn t p)
    (hg : g.IsIn t p) (h : f.name = g.name) : f = g := by
  have hcontent : f.content = g.content := by
    have hfile := hf.file
    rw [h, hg.file] at hfile
    exact (Option.some.inj hfile).symm
  have hdocument : f.document = g.document := by
    have hparse := hf.document
    rw [hcontent, hg.document] at hparse
    exact (Value.object.inj (Except.ok.inj hparse)).symm
  obtain ⟨name, content, document⟩ := f
  obtain ⟨name', content', document'⟩ := g
  simp_all

/-- The names of the schema files in a directory. -/
def schemaNames (t : Files.Tree) (p : Files.Path) : List String :=
  Text.sort ((t.names p).filter fun name =>
    Files.fitsAll (.anyChars :: ".json".toList.map .literal) name.toList && t.isFile (p ++ [name]))

theorem mem_schemaNames_iff {t : Files.Tree} {name : String} :
    name ∈ schemaNames t p ↔
      ".json".toList <:+ name.toList ∧ ∃ content, t.file? (p ++ [name]) = some content := by
  rw [schemaNames, Text.mem_sort, List.mem_filter, Bool.and_eq_true, Files.fitsAll_ending_iff,
    Files.Tree.isFile, Option.isSome_iff_exists]
  constructor
  · rintro ⟨-, hending, hfile⟩
    exact ⟨hending, hfile⟩
  · rintro ⟨hending, content, hfile⟩
    exact ⟨Files.Tree.mem_names_of_file? hfile, hending, content, hfile⟩

theorem pairwise_schemaNames (t : Files.Tree) (p : Files.Path) :
    (schemaNames t p).Pairwise Text.Precedes :=
  Text.pairwise_sort ((t.nodup_names p).filter _)

theorem list_eq_schemaNames (h : IsSchemaDirectory reader directory p) :
    reader.list directory "*.json" = .ok ((schemaNames reader.tree p).map (p ++ [·])) := by
  have hp := (Files.Reader.isContained_of_resolve h.root h.resolve).canonical
  have hparse : Files.Segment.parse "*.json" =
      .ok [.wild (.anyChars :: ".json".toList.map .literal)] := by rfl
  exact Files.Reader.list_of_wild h.tree hp hparse h.resolve h.isDirectory h.length h.lengths

/-- A directory of schemas has its files in one order only. -/
theorem AreFilesOf.names_eq (hfiles : AreFilesOf files reader.tree p)
    (h : IsSchemaDirectory reader directory p) :
    files.map (·.name) = schemaNames reader.tree p := by
  refine Text.eq_of_pairwise_precedes hfiles.sorted (pairwise_schemaNames _ _) fun name => ?_
  rw [mem_schemaNames_iff, List.mem_map]
  constructor
  · rintro ⟨f, hf, rfl⟩
    have hin := (hfiles.mem_iff f).mp hf
    exact ⟨hin.ending, f.content, hin.file⟩
  · rintro ⟨hending, content, hfile⟩
    obtain ⟨m, hm⟩ := h.valid name content hending hfile
    exact ⟨⟨name, content, m⟩, (hfiles.mem_iff _).mpr ⟨hending, hfile, hm.parse⟩, rfl⟩

theorem exists_files_of_names {names : List String} {t : Files.Tree}
    (h : ∀ name ∈ names, ∃ f : SchemaFile, f.name = name ∧ f.IsIn t p) :
    ∃ files : List SchemaFile, files.map (·.name) = names ∧ ∀ f ∈ files, f.IsIn t p := by
  induction names with
  | nil => exact ⟨[], rfl, fun f hf => absurd hf List.not_mem_nil⟩
  | cons name names ih =>
    rw [List.forall_mem_cons] at h
    obtain ⟨f, rfl, hf⟩ := h.1
    obtain ⟨files, rfl, hfiles⟩ := ih h.2
    exact ⟨f :: files, rfl, List.forall_mem_cons.mpr ⟨hf, hfiles⟩⟩

theorem exists_areFilesOf (h : IsSchemaDirectory reader directory p) :
    ∃ files, AreFilesOf files reader.tree p := by
  obtain ⟨files, hnames, hfiles⟩ :
      ∃ files : List SchemaFile, files.map (·.name) = schemaNames reader.tree p ∧
        ∀ f ∈ files, f.IsIn reader.tree p := by
    refine exists_files_of_names fun name hname => ?_
    obtain ⟨hending, content, hfile⟩ := mem_schemaNames_iff.mp hname
    obtain ⟨m, hm⟩ := h.valid name content hending hfile
    exact ⟨⟨name, content, m⟩, rfl, hending, hfile, hm.parse⟩
  refine ⟨files, hnames ▸ pairwise_schemaNames _ _, fun f => ⟨hfiles f, fun hf => ?_⟩⟩
  have hname : f.name ∈ files.map (·.name) :=
    hnames ▸ mem_schemaNames_iff.mpr ⟨hf.ending, f.content, hf.file⟩
  obtain ⟨g, hg, hgf⟩ := List.mem_map.mp hname
  rwa [← (hfiles g hg).eq hf hgf]

/-! ## What is loaded -/

namespace Registry

/-- A directory of schemas is loaded file by file. -/
theorem loadAll_eq (h : IsSchemaDirectory reader directory p)
    (hfiles : AreFilesOf files reader.tree p) (r : Registry) :
    r.loadAll reader directory =
      ⟨files.map fun f => (f.load p).loaded, r.enter (files.map (·.load p)), none⟩ := by
  have hin : ∀ f ∈ files, f.IsIn reader.tree p := fun f hf => (hfiles.mem_iff f).mp hf
  have hpaths : (schemaNames reader.tree p).map (p ++ [·]) =
      files.map fun f => p ++ [f.name] := by
    rw [← hfiles.names_eq h, List.map_map]
    rfl
  have hloads := directoryLoads_eq h hin
  obtain ⟨hregistry, hloaded⟩ := loadFiles_eq reader r (files.map fun f => p ++ [f.name])
  -- a file that failed would be one of the directory, and they all compile
  have hfailure : (loadFiles reader r (files.map fun f => p ++ [f.name])).failure = none := by
    rcases loadFiles_cases reader r (files.map fun f => p ++ [f.name]) with
      ⟨hnone, -⟩ | ⟨before, q, rest, e, -, hsplit, -, hq, -⟩
    · exact hnone
    · have hmem : q ∈ files.map fun f => p ++ [f.name] := by
        rw [hsplit]
        exact List.mem_append_right before List.mem_cons_self
      obtain ⟨f, hf, rfl⟩ := List.mem_map.mp hmem
      rw [(compileListed_of_isIn h (hin f hf)).1] at hq
      cases hq
  have heta (b : Batch) : b = ⟨b.loaded, b.registry, b.failure⟩ := rfl
  rw [loadAll, list_eq_schemaNames h, hpaths]
  refine (heta (loadFiles reader r _)).trans ?_
  rw [hloaded, hregistry, hfailure, hloads, List.map_map]
  rfl

/-- Under an identifier stands the document of the last file that has it. -/
theorem schema_enter_of_last (p : Files.Path) (before : List SchemaFile) (f : SchemaFile)
    {after : List SchemaFile} (h : ∀ g ∈ after, g.id p ≠ f.id p) :
    (empty.enter ((before ++ f :: after).map (·.load p))).schema (f.id p) = .ok f.document := by
  have hmaps := maps_empty.enter ((before ++ f :: after).map (·.load p))
  have hlast : last? ((before ++ f :: after).map (·.load p)) (f.id p) = some (f.load p) := by
    refine last?_eq_some_iff.mpr ⟨rfl, before.map (·.load p), after.map (·.load p), ?_, ?_⟩
    · rw [List.map_append, List.map_cons]
    · intro l hl
      obtain ⟨g, hg, rfl⟩ := List.mem_map.mp hl
      exact h g hg
  have hcompiled := hmaps.compiled?_eq (f.id p)
  rw [List.nil_append, hlast] at hcompiled
  rw [schema, get, hcompiled]
  rfl

end Registry

/-- What comes of loading a directory with some files: each file is loaded under its stem, or what
stands in for an empty one, in the order of their names, and under an identifier stands the
document of the last file that has it. -/
structure LoadsFiles (b : Registry.Batch) (p : Files.Path) (files : List SchemaFile) : Prop where
  completed : b.failure = none
  ids : b.loaded.map (·.id) = files.map (·.id p)
  named : ∀ f ∈ files, ∃ stem, IsStem f.name stem ∧ f.id p =
    if stem = "" then (ownIdentifier? f.document).getD (Files.Path.text (p ++ [f.name])) else stem
  last : ∀ before f after, files = before ++ f :: after → (∀ g ∈ after, g.id p ≠ f.id p) →
    b.registry.schema (f.id p) = .ok f.document

/-- The identifiers of a directory are distinct where no stem is empty and none is the stem of two
names. -/
theorem nodup_ids_iff {t : Files.Tree} (hfiles : AreFilesOf files t p)
    (hstems : ∀ f ∈ files, ¬ IsStem f.name "") :
    (files.map (·.id p)).Nodup ↔ ∀ stem, ¬ ".schema".toList <:+ stem.toList →
      stem ++ ".json" ∈ files.map (·.name) → stem ++ ".schema.json" ∉ files.map (·.name) := by
  -- an identifier is the stem of its file, since no stem is empty
  have hstem {f : SchemaFile} (hf : f ∈ files) : IsStem f.name (f.id p) := by
    have hname := isStem_identifierOfFile ((hfiles.mem_iff f).mp hf).ending
    rw [SchemaFile.id]
    split
    · rename_i hempty
      exact absurd (hempty ▸ hname) (hstems f hf)
    · exact hname
  have hnodup : files.Nodup := (Text.nodup_of_pairwise_precedes hfiles.sorted).of_map _
  rw [List.nodup_map_iff_inj_on hnodup]
  constructor
  · intro hinj stem hshort hjson hlong
    obtain ⟨f, hf, hfname⟩ := List.mem_map.mp hjson
    obtain ⟨g, hg, hgname⟩ := List.mem_map.mp hlong
    have hfid : f.id p = stem := by
      have hfstem := hstem hf
      rw [hfname] at hfstem
      rw [← identifierOfFile_of_isStem hfstem,
        identifierOfFile_of_isStem (isStem_append_json hshort)]
    have hgid : g.id p = stem := by
      have hgstem := hstem hg
      rw [hgname] at hgstem
      rw [← identifierOfFile_of_isStem hgstem, identifierOfFile_of_isStem (.inl rfl)]
    obtain rfl := hinj f hf g hg (hfid.trans hgid.symm)
    have hlength := congrArg (fun s : String => s.toList.length) (hfname.symm.trans hgname)
    simp at hlength
  · -- two files with one identifier are the pair that is excluded
    intro hpairs f hf g hg hid
    have hgstem : IsStem g.name (f.id p) := hid ▸ hstem hg
    by_contra hne
    have hnames : f.name ≠ g.name := fun hname =>
      hne (((hfiles.mem_iff f).mp hf).eq ((hfiles.mem_iff g).mp hg) hname)
    obtain ⟨hshort, hcase⟩ := isStem_cases (hstem hf) hgstem hnames
    have hfmem : f.name ∈ files.map (·.name) := List.mem_map_of_mem hf
    have hgmem : g.name ∈ files.map (·.name) := List.mem_map_of_mem hg
    rcases hcase with ⟨hfname, hgname⟩ | ⟨hfname, hgname⟩
    · exact hpairs _ hshort (hfname ▸ hfmem) (hgname ▸ hgmem)
    · exact hpairs _ hshort (hgname ▸ hgmem) (hfname ▸ hfmem)

/-- Loading a directory of schemas into an empty registry.  All its files are loaded, in the order
of their names, each under its stem; where a name is nothing but an ending, the schema's own
identifier stands in, or the path of the file.  Under an identifier stands the document of the last
file that has it.  Without such bare names the identifiers are distinct unless two files are named
with one stem and the two endings, and if they are distinct, each file's document is found under
its own. -/
theorem loadAll_directory (h : IsSchemaDirectory reader directory p) :
    let b := Registry.empty.loadAll reader directory
    ∃ files, AreFilesOf files reader.tree p ∧ LoadsFiles b p files ∧
      ((∀ f ∈ files, ¬ IsStem f.name "") →
        ((files.map (·.id p)).Nodup ↔ ∀ stem, ¬ ".schema".toList <:+ stem.toList →
          stem ++ ".json" ∈ files.map (·.name) → stem ++ ".schema.json" ∉ files.map (·.name))) ∧
      ((files.map (·.id p)).Nodup →
        ∀ f ∈ files, b.registry.schema (f.id p) = .ok f.document) := by
  intro b
  obtain ⟨files, hfiles⟩ := exists_areFilesOf h
  have hb : b = ⟨files.map fun f => (f.load p).loaded,
      Registry.empty.enter (files.map (·.load p)), none⟩ := Registry.loadAll_eq h hfiles _
  have hloads : LoadsFiles b p files := by
    rw [hb]
    refine ⟨rfl, by rw [List.map_map]; rfl, fun f hf => ?_, ?_⟩
    · have hstem := isStem_identifierOfFile ((hfiles.mem_iff f).mp hf).ending
      exact ⟨identifierOfFile f.name, hstem, rfl⟩
    · rintro before f after rfl hafter
      exact Registry.schema_enter_of_last p before f hafter
  refine ⟨files, hfiles, hloads, nodup_ids_iff hfiles, fun hnodup f hf => ?_⟩
  -- a file is the last with its identifier where no other has it
  obtain ⟨before, after, rfl⟩ := List.append_of_mem hf
  refine hloads.last before f after rfl fun g hg hid => ?_
  rw [List.map_append, List.map_cons] at hnodup
  have hrest := (List.nodup_cons.mp (List.nodup_append.mp hnodup).2.1).1
  exact hrest (List.mem_map.mpr ⟨g, hg, hid⟩)

/-! ## One stem with both endings -/

/-- The members of a content that is a valid schema. -/
def schema? (content : Octets) : Option Members :=
  match Json.parseOctets content with
  | .ok (.object m) =>
    match checkText m "$schema", checkText m "$id", check m with
    | .ok (), .ok (), .ok none => some m
    | _, _, _ => none
  | _ => none

theorem isSchema_of_schema? {content : Octets} {m : Members} (h : schema? content = some m) :
    IsSchema content m := by
  unfold schema? at h
  split at h
  · rename_i m' hparse
    split at h
    · rename_i hdialect hown hcheck
      obtain rfl := Option.some.inj h
      exact ⟨hparse, hdialect, hown, hcheck⟩
    · cases h
  · cases h

/-- The title of a schema. -/
def title? (m : Members) : Option String := (m.get? "title").bind Value.text?

/-- A schema with a title. -/
def firstSchema : Octets := Text.utf8 "\x7b\"title\": \"one\"\x7d"

/-- A schema with another title. -/
def secondSchema : Octets := Text.utf8 "\x7b\"title\": \"two\"\x7d"

/-- A directory in which one stem comes with both endings. -/
def bothEndings : Files.Reader :=
  ⟨⟨[(["s", "a.json"], .file firstSchema), (["s", "a.schema.json"], .file secondSchema)]⟩, ["s"]⟩

theorem exists_isSchema_of_title {content : Octets} {title : String}
    (h : (schema? content).bind title? = some title) :
    ∃ m, IsSchema content m ∧ title? m = some title := by
  obtain ⟨m, hm, htitle⟩ := Option.bind_eq_some_iff.mp h
  exact ⟨m, isSchema_of_schema? hm, htitle⟩

theorem exists_firstSchema : ∃ m, IsSchema firstSchema m ∧ title? m = some "one" :=
  exists_isSchema_of_title (by decide +kernel)

theorem exists_secondSchema : ∃ m, IsSchema secondSchema m ∧ title? m = some "two" :=
  exists_isSchema_of_title (by decide +kernel)

theorem file?_bothEndings {name : String} {content : Octets}
    (h : bothEndings.tree.file? (["s"] ++ [name]) = some content) :
    name = "a.json" ∧ content = firstSchema ∨ name = "a.schema.json" ∧ content = secondSchema := by
  have hnames : bothEndings.tree.names ["s"] = ["a.json", "a.schema.json"] := by decide +kernel
  have hname : name ∈ ["a.json", "a.schema.json"] := hnames ▸ Files.Tree.mem_names_of_file? h
  rcases List.mem_pair.mp hname with rfl | rfl
  · have hfile : bothEndings.tree.file? ["s", "a.json"] = some firstSchema := rfl
    exact .inl ⟨rfl, (Option.some.inj (hfile.symm.trans h)).symm⟩
  · have hfile : bothEndings.tree.file? ["s", "a.schema.json"] = some secondSchema := rfl
    exact .inr ⟨rfl, (Option.some.inj (hfile.symm.trans h)).symm⟩

theorem isSchemaDirectory_bothEndings : IsSchemaDirectory bothEndings "." ["s"] where
  tree := by decide +kernel
  root := by decide +kernel
  root_ne := List.cons_ne_nil _ _
  resolve := rfl
  isDirectory := by decide +kernel
  length := by decide +kernel
  lengths := by decide +kernel
  valid name content _ hfile := by
    rcases file?_bothEndings hfile with ⟨-, rfl⟩ | ⟨-, rfl⟩
    · obtain ⟨m, hm, -⟩ := exists_firstSchema
      exact ⟨m, hm⟩
    · obtain ⟨m, hm, -⟩ := exists_secondSchema
      exact ⟨m, hm⟩

theorem areFilesOf_bothEndings {one two : Members} (hone : IsSchema firstSchema one)
    (htwo : IsSchema secondSchema two) :
    AreFilesOf [⟨"a.json", firstSchema, one⟩, ⟨"a.schema.json", secondSchema, two⟩]
      bothEndings.tree ["s"] where
  sorted := by
    -- the full stop is followed by different letters
    have hprecedes : Text.Precedes "a.json" "a.schema.json" := .cons (.cons (.rel (by decide)))
    simpa using hprecedes
  mem_iff f := by
    have hshort : ".json".toList <:+ "a.json".toList := by decide
    have hlong : ".json".toList <:+ "a.schema.json".toList := by decide
    have hfirst : SchemaFile.IsIn ⟨"a.json", firstSchema, one⟩ bothEndings.tree ["s"] :=
      ⟨hshort, rfl, hone.parse⟩
    have hsecond : SchemaFile.IsIn ⟨"a.schema.json", secondSchema, two⟩ bothEndings.tree ["s"] :=
      ⟨hlong, rfl, htwo.parse⟩
    rw [List.mem_pair]
    constructor
    · rintro (rfl | rfl)
      · exact hfirst
      · exact hsecond
    · intro hf
      rcases file?_bothEndings hf.file with ⟨hname, -⟩ | ⟨hname, -⟩
      · exact .inl (hf.eq hfirst hname)
      · exact .inr (hf.eq hsecond hname)

/-- Two files with one stem have one identifier, and the document of the first is lost. -/
theorem loadAll_bothEndings :
    let b := Registry.empty.loadAll bothEndings "."
    IsSchemaDirectory bothEndings "." ["s"] ∧ b.failure = none ∧
      b.loaded.map (·.id) = ["a", "a"] ∧
      ∃ one two, Json.parseOctets firstSchema = .ok (.object one) ∧
        Json.parseOctets secondSchema = .ok (.object two) ∧
        b.registry.schema "a" = .ok two ∧ one ≠ two := by
  intro b
  obtain ⟨one, hone, hfirst⟩ := exists_firstSchema
  obtain ⟨two, htwo, hsecond⟩ := exists_secondSchema
  -- both names have the stem, so both files are loaded under it and the second one counts
  have hid (name : String) (hname : identifierOfFile name = "a") (content : Octets) (m : Members) :
      SchemaFile.id ["s"] ⟨name, content, m⟩ = "a" := by
    rw [SchemaFile.id, hname]
    rfl
  have hidOne := hid "a.json" (by decide +kernel) firstSchema one
  have hidTwo := hid "a.schema.json" (by decide +kernel) secondSchema two
  have hb := Registry.loadAll_eq isSchemaDirectory_bothEndings (areFilesOf_bothEndings hone htwo)
    Registry.empty
  have hlast := Registry.schema_enter_of_last ["s"] [⟨"a.json", firstSchema, one⟩]
    ⟨"a.schema.json", secondSchema, two⟩ fun g hg => absurd hg List.not_mem_nil
  rw [hidTwo] at hlast
  refine ⟨isSchemaDirectory_bothEndings, congrArg (·.failure) hb, ?_, one, two, hone.parse,
    htwo.parse, ?_, ?_⟩
  · refine (congrArg (fun b => b.loaded.map (·.id)) hb).trans ?_
    simp [SchemaFile.load, hidOne, hidTwo]
  · exact (congrArg (fun b => b.registry.schema "a") hb).trans hlast
  · rintro rfl
    exact absurd (hfirst.symm.trans hsecond) (by decide)

theorem loadAll_directory_bothEndings :
    let b := Registry.empty.loadAll bothEndings "."
    IsSchemaDirectory bothEndings "." ["s"] ∧
      ∃ files, AreFilesOf files bothEndings.tree ["s"] ∧ LoadsFiles b ["s"] files ∧
        ¬ (files.map (·.id ["s"])).Nodup := by
  intro b
  obtain ⟨files, hfiles, hloads, hdistinct, -⟩ := loadAll_directory isSchemaDirectory_bothEndings
  obtain ⟨one, hone, -⟩ := exists_firstSchema
  obtain ⟨two, htwo, -⟩ := exists_secondSchema
  -- the files of this directory are known by their names
  have hnames : files.map (·.name) = ["a.json", "a.schema.json"] :=
    (hfiles.names_eq isSchemaDirectory_bothEndings).trans
      ((areFilesOf_bothEndings hone htwo).names_eq isSchemaDirectory_bothEndings).symm
  refine ⟨isSchemaDirectory_bothEndings, files, hfiles, hloads, fun hnodup => ?_⟩
  have hstems : ∀ f ∈ files, ¬ IsStem f.name "" := by
    intro f hf hbare
    have hname : f.name ∈ ["a.json", "a.schema.json"] := hnames ▸ List.mem_map_of_mem hf
    have hempty := identifierOfFile_of_isStem hbare
    rcases List.mem_pair.mp hname with h | h
    · rw [h] at hempty
      exact absurd hempty (by decide +kernel)
    · rw [h] at hempty
      exact absurd hempty (by decide +kernel)
  refine (hdistinct hstems).mp hnodup "a" (by decide) ?_ ?_
  · rw [hnames]
    exact List.mem_cons_self
  · rw [hnames]
    exact List.mem_cons_of_mem _ List.mem_cons_self

end ContractDrift.Schema
