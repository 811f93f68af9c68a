/-
When a schema is loaded, and why it is not.

A document is loaded if it is an object, given as such or as JSON (`Decodes`), whose dialect and
own identifier are texts (`NamesByText`), for which there is an identifier (`IsIdentifier`) and in
which the schema of the dialect that it names (`NamesDialect`) finds nothing.  `Admits` puts the
conditions together.  The first of them that fails decides how the document is refused (`Refuses`),
unless a step breaks off instead (`Breaks`): an integer, a path or a URI cannot be read, or the
check comes to no end.

`load_admits` says that there is no other way, and that an object is loaded alike whether it is
given as such, as text or as octets.
-/
import ContractDrift.Proofs.Json.WrittenValue
import ContractDrift.Proofs.Schema.Usable

namespace ContractDrift.Schema

open ContractDrift.Json (Value Members)

/-! ## Conditions -/

/-- A keyword is not there, or its value is a text. -/
def NamesByText (m : Members) (keyword : String) : Prop :=
  ∀ v, m.get? keyword = some v → ∃ s, v = .text s

/-- No identifier is given, or an empty one. -/
def GivesNone (given : Option String) : Prop := ∀ id, given = some id → id = ""

/-- An object has no identifier of its own, or an empty one. -/
def OwnsNone (m : Members) : Prop := ∀ id, m.get? "$id" = some (.text id) → id = ""

/-- The identifier of a document is the first that is not empty: the one that is given, its own,
or the path of its source, as it is resolved at a place. -/
inductive IsIdentifier (place : Files.Path) (m : Members) (given source : Option String) :
    String → Prop
  | given {id : String} : given = some id → id ≠ "" → IsIdentifier place m given source id
  | own {id : String} : GivesNone given → m.get? "$id" = some (.text id) → id ≠ "" →
      IsIdentifier place m given source id
  | source {path : String} : GivesNone given → OwnsNone m → source = some path →
      '\x00' ∉ path.toList → IsIdentifier place m given source (Files.resolve place path).text

/-- The dialect that an object names by its URI, or draft 7 if it names none that is known. -/
inductive NamesDialect (m : Members) : Dialect → Prop
  | known {written : String} {d : Dialect} : m.get? "$schema" = some (.text written) →
      d.uri = Uri.commonForm written → NamesDialect m d
  | unknown : (∀ written, m.get? "$schema" = some (.text written) →
      ∀ d : Dialect, d.uri ≠ Uri.commonForm written) → NamesDialect m .draft7

/-- What the schema of a dialect finds in an object. -/
def findingsIn (d : Dialect) (m : Members) : Findings :=
  evaluate [.regex] d d.metaSchema (.object m)

/-- A document is an object whose keywords for the dialect and the identifier are texts. -/
structure HasKeywords (d : Document) (m : Members) : Prop where
  decodes : Decodes d m
  dialect : NamesByText m "$schema"
  own : NamesByText m "$id"

/-- A document has all that is needed for its check: its keywords and an identifier. -/
structure IsIdentified (place : Files.Path) (d : Document) (given source : Option String)
    (m : Members) (id : String) : Prop extends HasKeywords d m where
  identifier : IsIdentifier place m given source id

/-- A document is admitted: it is identified, and the schema of the dialect that it names finds
nothing in it. -/
structure Admits (place : Files.Path) (d : Document) (given source : Option String)
    (m : Members) (id : String) : Prop extends IsIdentified place d given source m id where
  uri : dialectFault? m = none
  satisfies : ∃ dialect, NamesDialect m dialect ∧ findingsIn dialect m = .none

/-- The first condition that a document fails, and how it is refused for that. -/
inductive Refuses (place : Files.Path) (d : Document) (given source : Option String) :
    LoadError → Prop
  | malformed {e : Json.ReadError} : d.read = .error e → (∀ n, e ≠ .tooManyDigits n) →
      Refuses place d given source (.malformed source e)
  | notAnObject {v : Value} : d.read = .ok v → (∀ m, v ≠ .object m) →
      Refuses place d given source (.notAnObject v.kindName)
  | dialectNotText {m : Members} {v : Value} : Decodes d m → m.get? "$schema" = some v →
      (∀ s, v ≠ .text s) → Refuses place d given source (.keywordNotText "$schema" v.kindName)
  | ownNotText {m : Members} {v : Value} : Decodes d m → NamesByText m "$schema" →
      m.get? "$id" = some v → (∀ s, v ≠ .text s) →
        Refuses place d given source (.keywordNotText "$id" v.kindName)
  | noIdentifier {m : Members} : HasKeywords d m → GivesNone given → OwnsNone m → source = none →
      Refuses place d given source .noIdentifier
  | invalid {m : Members} {id : String} {dialect : Dialect} {x : Violation}
      {rest : List Violation} : IsIdentified place d given source m id → dialectFault? m = none →
        NamesDialect m dialect → (findingsIn dialect m).violations = x :: rest →
          Refuses place d given source (.invalid id x)

/-- A step that breaks off: an integer with too many digits is read, a path with a NUL character
resolved, the URI of a dialect divided, or the schema of the dialect evaluated. -/
inductive Breaks (place : Files.Path) (d : Document) (given source : Option String) :
    LoadError → Prop
  | digits {n : Nat} : d.read = .error (.tooManyDigits n) →
      Breaks place d given source (.tooManyDigits (.tooManyDigits n))
  | path {m : Members} {path : String} : HasKeywords d m → GivesNone given → OwnsNone m →
      source = some path → '\x00' ∈ path.toList →
        Breaks place d given source (.unreadable .embeddedNull)
  | uri {m : Members} {id : String} {fault : Uri.AuthorityFault} :
      IsIdentified place d given source m id → dialectFault? m = some fault →
        Breaks place d given source (.stopped (.reference (.notAUri fault)))
  | check {m : Members} {id : String} {dialect : Dialect} {s : Stop} :
      IsIdentified place d given source m id → dialectFault? m = none → NamesDialect m dialect →
        (findingsIn dialect m).violations = [] → (findingsIn dialect m).stop = some s →
          Breaks place d given source (.stopped s)

/-! ## The steps -/

variable {place : Files.Path} {d : Document} {given source : Option String} {m : Members}
  {id keyword : String} {e : LoadError}

theorem members_eq_error_iff :
    d.members source = .error e ↔
      (∃ e', d.read = .error e' ∧ (∀ n, e' ≠ .tooManyDigits n) ∧ e = .malformed source e') ∨
      (∃ v, d.read = .ok v ∧ (∀ m, v ≠ .object m) ∧ e = .notAnObject v.kindName) ∨
      ∃ n, d.read = .error (.tooManyDigits n) ∧ e = .tooManyDigits (.tooManyDigits n) := by
  rw [members_eq]
  split
  · rename_i hread
    simp [hread]
  · rename_i hread
    simp_all [eq_comm (b := e)]
  · rename_i hread
    simp [hread, eq_comm (b := e)]
  · rename_i hread
    simp_all [eq_comm (b := e)]

theorem checkText_eq_ok_iff {u : Unit} :
    checkText m keyword = .ok u ↔ NamesByText m keyword := by
  unfold checkText NamesByText
  split <;> simp_all

theorem checkText_eq_error_iff :
    checkText m keyword = .error e ↔ ∃ v, m.get? keyword = some v ∧ (∀ s, v ≠ .text s) ∧
      e = .keywordNotText keyword v.kindName := by
  unfold checkText
  split
  · rename_i hv
    simp [hv]
  · rename_i hv
    simp [hv]
  · rename_i hv
    simp_all [eq_comm (b := e)]

theorem nonEmpty?_eq_some_iff {s : Option String} :
    nonEmpty? s = some id ↔ s = some id ∧ id ≠ "" := by
  simp [nonEmpty?, Option.filter_eq_some_iff]

theorem nonEmpty?_eq_none_iff {s : Option String} : nonEmpty? s = none ↔ GivesNone s := by
  simp [nonEmpty?, GivesNone, Option.filter_eq_none_iff]

theorem bind_text?_eq_some_iff {s : String} :
    (m.get? keyword).bind Value.text? = some s ↔ m.get? keyword = some (.text s) := by
  simp [Option.bind_eq_some_iff, Value.text?_eq_some_iff]

theorem nonEmpty?_own_eq_some_iff :
    nonEmpty? ((m.get? "$id").bind Value.text?) = some id ↔
      m.get? "$id" = some (.text id) ∧ id ≠ "" := by
  rw [nonEmpty?_eq_some_iff, bind_text?_eq_some_iff]

theorem nonEmpty?_own_eq_none_iff :
    nonEmpty? ((m.get? "$id").bind Value.text?) = none ↔ OwnsNone m := by
  rw [Option.eq_none_iff_forall_ne_some]
  simp [nonEmpty?_own_eq_some_iff, OwnsNone]

theorem identifier_of_given (hid : given = some id) (hne : id ≠ "") :
    identifier place m given source = .ok id := by
  simp only [identifier, nonEmpty?_eq_some_iff.mpr ⟨hid, hne⟩, Option.orElse_some]

theorem identifier_of_own (hgiven : GivesNone given) (hid : m.get? "$id" = some (.text id))
    (hne : id ≠ "") : identifier place m given source = .ok id := by
  simp only [identifier, nonEmpty?_eq_none_iff.mpr hgiven, Option.orElse_none,
    nonEmpty?_own_eq_some_iff.mpr ⟨hid, hne⟩]

theorem identifier_of_none (hgiven : GivesNone given) (hown : OwnsNone m) :
    identifier place m given source =
      source.elim (.error .noIdentifier) (sourceIdentifier place) := by
  simp only [identifier, nonEmpty?_eq_none_iff.mpr hgiven, Option.orElse_none,
    nonEmpty?_own_eq_none_iff.mpr hown]
  cases source <;> rfl

/-- An identifier is given, or the document has one, or neither is the case. -/
theorem identifier_cases (given : Option String) (m : Members) :
    (∃ id, given = some id ∧ id ≠ "") ∨
      GivesNone given ∧ ((∃ id, m.get? "$id" = some (.text id) ∧ id ≠ "") ∨ OwnsNone m) := by
  cases hgiven : nonEmpty? given with
  | some id => exact .inl ⟨id, nonEmpty?_eq_some_iff.mp hgiven⟩
  | none =>
    refine .inr ⟨nonEmpty?_eq_none_iff.mp hgiven, ?_⟩
    cases hown : nonEmpty? ((m.get? "$id").bind Value.text?) with
    | some id => exact .inl ⟨id, nonEmpty?_own_eq_some_iff.mp hown⟩
    | none => exact .inr (nonEmpty?_own_eq_none_iff.mp hown)

theorem identifier_eq_ok_iff :
    identifier place m given source = .ok id ↔ IsIdentifier place m given source id := by
  constructor
  · intro h
    -- the three sources of an identifier, in the order in which they are asked
    rcases identifier_cases given m with ⟨_, hid, hne⟩ | ⟨hgiven, ⟨_, hid, hne⟩ | hown⟩
    · obtain rfl := Except.ok.inj ((identifier_of_given hid hne).symm.trans h)
      exact .given hid hne
    · obtain rfl := Except.ok.inj ((identifier_of_own hgiven hid hne).symm.trans h)
      exact .own hgiven hid hne
    · rw [identifier_of_none hgiven hown] at h
      cases source with
      | none => cases h
      | some path =>
        rw [Option.elim_some, sourceIdentifier] at h
        split at h
        · cases h
        · rename_i hnull
          rw [← Except.ok.inj h]
          exact .source hgiven hown rfl (by simpa using hnull)
  · intro h
    cases h with
    | given hid hne => exact identifier_of_given hid hne
    | own hgiven hid hne => exact identifier_of_own hgiven hid hne
    | source hgiven hown hsource hnull =>
      rw [identifier_of_none hgiven hown, hsource, Option.elim_some, sourceIdentifier,
        if_neg (by simpa using hnull)]

theorem identifier_eq_error_iff :
    identifier place m given source = .error e ↔ GivesNone given ∧ OwnsNone m ∧
      (source = none ∧ e = .noIdentifier ∨
        ∃ path, source = some path ∧ '\x00' ∈ path.toList ∧ e = .unreadable .embeddedNull) := by
  rcases identifier_cases given m with ⟨id, hid, hne⟩ | ⟨hgiven, ⟨id, hid, hne⟩ | hown⟩
  · rw [identifier_of_given hid hne]
    exact iff_of_false nofun fun h => hne (h.1 id hid)
  · rw [identifier_of_own hgiven hid hne]
    exact iff_of_false nofun fun h => hne (h.2.1 id hid)
  · rw [identifier_of_none hgiven hown]
    cases source with
    | none => simp [hgiven, hown, eq_comm (b := e)]
    | some path =>
      rw [Option.elim_some, sourceIdentifier]
      -- only a path is left to stand in, and a null character keeps it from this
      split
      · rename_i hnull
        simp_all [eq_comm (b := e)]
      · rename_i hnull
        simp_all

/-! ## The check -/

theorem eq_of_uri_eq {dialect dialect' : Dialect} (h : dialect.uri = dialect'.uri) :
    dialect = dialect' := by
  cases dialect <;> cases dialect' <;> first | rfl | exact absurd h (by decide)

theorem ofUri?_eq_some_iff {written : String} {dialect : Dialect} :
    Dialect.ofUri? written = some dialect ↔ dialect.uri = Uri.commonForm written := by
  have hfound {d : Dialect} (h : Dialect.ofUri? written = some d) :
      d.uri = Uri.commonForm written := by
    have hd := List.find?_some h
    rwa [beq_iff_eq] at hd
  refine ⟨hfound, fun h => ?_⟩
  cases hfind : Dialect.ofUri? written with
  | none =>
    have hall : dialect ∈ Dialect.all := by cases dialect <;> decide
    have hnot := List.find?_eq_none.mp hfind dialect hall
    rw [beq_iff_eq] at hnot
    exact absurd h hnot
  | some d => rw [eq_of_uri_eq ((hfound hfind).trans h.symm)]

/-- The dialect that an object names, if it is known. -/
def named? (m : Members) : Option Dialect :=
  ((m.get? "$schema").bind Value.text?).bind Dialect.ofUri?

theorem named?_eq_some_iff {dialect : Dialect} :
    named? m = some dialect ↔ ∃ written, m.get? "$schema" = some (.text written) ∧
      dialect.uri = Uri.commonForm written := by
  rw [named?, Option.bind_eq_some_iff]
  simp only [bind_text?_eq_some_iff, ofUri?_eq_some_iff]

theorem dialectOf_eq (m : Members) : dialectOf m = (named? m).getD .draft7 := by
  unfold dialectOf Dialect.ofSchema named?
  rw [Value.get?, Value.members?, Option.bind_some]
  cases m.get? "$schema" with
  | none => rfl
  | some v => cases v <;> simp only [Option.bind_some, Value.text?, Option.bind_none,
      Option.getD_none]

/-- An object is checked in the dialect that it names, of which there is one. -/
theorem namesDialect_iff {dialect : Dialect} : NamesDialect m dialect ↔ dialectOf m = dialect := by
  rw [dialectOf_eq]
  constructor
  · intro h
    cases h with
    | known hwritten huri => rw [named?_eq_some_iff.mpr ⟨_, hwritten, huri⟩, Option.getD_some]
    | unknown hnone =>
      -- a dialect that is not known is read as the usual one
      have hunnamed : named? m = none := Option.eq_none_iff_forall_ne_some.mpr fun d hd => by
        obtain ⟨written, hwritten, huri⟩ := named?_eq_some_iff.mp hd
        exact hnone written hwritten d huri
      rw [hunnamed, Option.getD_none]
  · rintro rfl
    cases hnamed : named? m with
    | some d =>
      obtain ⟨written, hwritten, huri⟩ := named?_eq_some_iff.mp hnamed
      exact .known hwritten huri
    | none =>
      refine .unknown fun written hwritten d huri => ?_
      exact nomatch hnamed.symm.trans (named?_eq_some_iff.mpr ⟨written, hwritten, huri⟩)

theorem check_eq_ok_some_iff {x : Violation} :
    check m = .ok (some x) ↔
      dialectFault? m = none ∧ ∃ rest, (metaFindings m).violations = x :: rest := by
  unfold check
  split
  · rename_i hfault
    simp [hfault]
  · rename_i hfault
    dsimp only
    split <;> simp_all

theorem check_eq_error_iff {s : Stop} :
    check m = .error s ↔ (∃ fault, dialectFault? m = some fault ∧ s = .reference (.notAUri fault)) ∨
      dialectFault? m = none ∧ (metaFindings m).violations = [] ∧
        (metaFindings m).stop = some s := by
  unfold check
  split
  · rename_i hfault
    simp [hfault, eq_comm (b := s)]
  · rename_i hfault
    dsimp only
    split <;> simp_all

/-! ## All together -/

theorem compile_eq_ok_iff_admits {l : Loaded} :
    compile place d given source = .ok l ↔
      ∃ m, Admits place d given source m l.id ∧ l.schema = Compiled.ofDocument m := by
  rw [compile_eq_ok_iff]
  refine exists_congr fun m => ?_
  rw [members_eq_ok_iff, checkText_eq_ok_iff, checkText_eq_ok_iff, identifier_eq_ok_iff,
    check_eq_ok_none_iff]
  constructor
  · rintro ⟨hdecodes, hdialect, hown, hidentifier, ⟨huri, hfindings⟩, hl⟩
    exact ⟨⟨⟨⟨hdecodes, hdialect, hown⟩, hidentifier⟩, huri,
      dialectOf m, namesDialect_iff.mpr rfl, hfindings⟩, hl⟩
  · rintro ⟨h, hl⟩
    obtain ⟨dialect, hnames, hfindings⟩ := h.satisfies
    obtain rfl := namesDialect_iff.mp hnames
    exact ⟨h.decodes, h.dialect, h.own, h.identifier, ⟨h.uri, hfindings⟩, hl⟩

/-- What becomes of an object that comes to its check under an identifier. -/
def checked (m : Members) (id : String) : Except LoadError Loaded :=
  match check m with
  | .error s => .error (.stopped s)
  | .ok (some violation) => .error (.invalid id violation)
  | .ok none => .ok ⟨id, .ofDocument m⟩

theorem compile_eq (place : Files.Path) (d : Document) (given source : Option String) :
    compile place d given source = d.members source >>= fun m => checkText m "$schema" >>= fun _ =>
      checkText m "$id" >>= fun _ => identifier place m given source >>= checked m :=
  rfl

theorem checked_eq_error_iff :
    checked m id = .error e ↔
      (∃ s, check m = .error s ∧ e = .stopped s) ∨
        ∃ x, check m = .ok (some x) ∧ e = .invalid id x := by
  unfold checked
  split
  · rename_i hcheck
    simp [hcheck, eq_comm (b := e)]
  · rename_i hcheck
    simp [hcheck, eq_comm (b := e)]
  · rename_i hcheck
    simp [hcheck]

/-- A document that is not loaded is refused, or a step breaks off. -/
theorem compile_eq_error_iff :
    compile place d given source = .error e ↔
      Refuses place d given source e ∨ Breaks place d given source e := by
  simp only [compile_eq, bind_eq_error_iff, checked_eq_error_iff, members_eq_error_iff,
    members_eq_ok_iff, checkText_eq_error_iff, checkText_eq_ok_iff, identifier_eq_error_iff,
    identifier_eq_ok_iff, check_eq_error_iff, check_eq_ok_some_iff, exists_const]
  -- the failures of the steps, one after the other; each step has those before it behind it
  constructor
  · rintro ((⟨e', hread, hdigits, rfl⟩ | ⟨v, hread, hnot, rfl⟩ | ⟨n, hread, rfl⟩) |
      ⟨m, hdecodes, ⟨v, hv, hnot, rfl⟩ | ⟨hdialect, ⟨v, hv, hnot, rfl⟩ | ⟨hown, h⟩⟩⟩)
    · exact .inl (.malformed hread hdigits)
    · exact .inl (.notAnObject hread hnot)
    · exact .inr (.digits hread)
    · exact .inl (.dialectNotText hdecodes hv hnot)
    · exact .inl (.ownNotText hdecodes hdialect hv hnot)
    · have hkeywords : HasKeywords d m := ⟨hdecodes, hdialect, hown⟩
      rcases h with ⟨hgiven, hnone, ⟨rfl, rfl⟩ | ⟨path, rfl, hnull, rfl⟩⟩ | ⟨id, hid, h⟩
      · exact .inl (.noIdentifier hkeywords hgiven hnone rfl)
      · exact .inr (.path hkeywords hgiven hnone rfl hnull)
      · have hidentified : IsIdentified place d given source m id := ⟨hkeywords, hid⟩
        rcases h with ⟨s, ⟨fault, hfault, rfl⟩ | ⟨huri, hnone, hstop⟩, rfl⟩ |
          ⟨x, ⟨huri, rest, hrest⟩, rfl⟩
        · exact .inr (.uri hidentified hfault)
        · exact .inr (.check hidentified huri (namesDialect_iff.mpr rfl) hnone hstop)
        · exact .inl (.invalid hidentified huri (namesDialect_iff.mpr rfl) hrest)
  · rintro (h | h)
    · cases h with
      | malformed hread hdigits => exact .inl (.inl ⟨_, hread, hdigits, rfl⟩)
      | notAnObject hread hnot => exact .inl (.inr (.inl ⟨_, hread, hnot, rfl⟩))
      | dialectNotText hdecodes hv hnot => exact .inr ⟨_, hdecodes, .inl ⟨_, hv, hnot, rfl⟩⟩
      | ownNotText hdecodes hdialect hv hnot =>
        exact .inr ⟨_, hdecodes, .inr ⟨hdialect, .inl ⟨_, hv, hnot, rfl⟩⟩⟩
      | noIdentifier h hgiven hnone hsource =>
        exact .inr ⟨_, h.decodes, .inr ⟨h.dialect, .inr ⟨h.own,
          .inl ⟨hgiven, hnone, .inl ⟨hsource, rfl⟩⟩⟩⟩⟩
      | invalid h huri hnames hrest =>
        obtain rfl := namesDialect_iff.mp hnames
        exact .inr ⟨_, h.decodes, .inr ⟨h.dialect, .inr ⟨h.own,
          .inr ⟨_, h.identifier, .inr ⟨_, ⟨huri, _, hrest⟩, rfl⟩⟩⟩⟩⟩
    · cases h with
      | digits hread => exact .inl (.inr (.inr ⟨_, hread, rfl⟩))
      | path h hgiven hnone hsource hnull =>
        exact .inr ⟨_, h.decodes, .inr ⟨h.dialect, .inr ⟨h.own,
          .inl ⟨hgiven, hnone, .inr ⟨_, hsource, hnull, rfl⟩⟩⟩⟩⟩
      | uri h hfault =>
        exact .inr ⟨_, h.decodes, .inr ⟨h.dialect, .inr ⟨h.own,
          .inr ⟨_, h.identifier, .inl ⟨_, .inl ⟨_, hfault, rfl⟩, rfl⟩⟩⟩⟩⟩
      | check h huri hnames hnone hstop =>
        obtain rfl := namesDialect_iff.mp hnames
        exact .inr ⟨_, h.decodes, .inr ⟨h.dialect, .inr ⟨h.own,
          .inr ⟨_, h.identifier, .inl ⟨_, .inr ⟨huri, hnone, hstop⟩, rfl⟩⟩⟩⟩⟩

/-- Documents that are the same object are loaded alike. -/
theorem load_congr {d' : Document} (h : Decodes d m) (h' : Decodes d' m) (r : Registry) :
    r.load place d given source = r.load place d' given source := by
  rw [Registry.load_eq, Registry.load_eq, compile_eq, compile_eq,
    members_eq_ok_iff.mpr h, members_eq_ok_iff.mpr h']

theorem Refuses.isOfContent (h : Refuses place d given source e) : e.isOfContent = true := by
  cases h <;> rfl

theorem Breaks.isOfContent (h : Breaks place d given source e) : e.isOfContent = false := by
  cases h <;> rfl

/-- An object whose dialect has a lone bracket in its URI. -/
def bracketSchema : Members := [("$schema", .text "http://[")]

/-- The text of an object. -/
def textOf (m : Members) : String := Json.writeIndented 2 (.object m)

end ContractDrift.Schema
