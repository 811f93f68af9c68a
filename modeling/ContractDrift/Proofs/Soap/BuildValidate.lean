/-
A built envelope against its own operation.

An envelope that is built from values has an element for every required field, unless its
value is a list without members, and has no element that is not declared.  So the verdict on it
in strict mode is known from the values alone (`validate_build`).
-/
import ContractDrift.Proofs.Soap.EnvelopeRoundTrip
import ContractDrift.Proofs.Soap.Verdict
import ContractDrift.Proofs.Wsdl.Model

namespace ContractDrift.Soap

open ContractDrift.Json (Value Members)
open ContractDrift.Wsdl (Direction Field Model Operation wrapperName)
open ContractDrift.Xml (Node NameClass isXmlText)

/-! ## The fields that are shown -/

namespace Content

/-- The name of content. -/
def name : Content → String
  | .item n _ => n
  | .group n _ => n

theorem name_ofValue (f : Field) (v : Value) : (ofValue f v).name = f.name := by
  obtain ⟨n, type, required, children⟩ := f
  rcases children with _ | ⟨_ | ⟨g, gs⟩⟩ <;> cases v <;> rfl

theorem name_toNode (shown : String → String) (c : Content) :
    (c.toNode shown).name = c.name := by
  cases c <;> rfl

theorem map_name_toNodes (shown : String → String) (cs : List Content) :
    (toNodes shown cs).map Node.name = cs.map name := by
  induction cs with
  | nil => rfl
  | cons c cs ih => rw [toNodes, List.map_cons, List.map_cons, ih, name_toNode]

end Content

/-- Whether a value is a list without members. -/
def isEmptyList : Option Value → Bool
  | some (.array []) => true
  | _ => false

theorem isEmptyList_iff {v : Option Value} : isEmptyList v = true ↔ v = some (.array []) := by
  unfold isEmptyList
  split <;> simp_all

/-- Whether a field is shown for a value. -/
def isShown (required : Bool) : Option Value → Bool
  | none | some .null => required
  | v => !isEmptyList v

theorem isShown_of_isEmptyList {v : Option Value} (h : isEmptyList v = true) (required : Bool) :
    isShown required v = false := by
  unfold isEmptyList at h
  split at h
  · rfl
  · exact absurd h Bool.false_ne_true

theorem isShown_required (v : Option Value) : isShown true v = !isEmptyList v := by
  unfold isShown
  split <;> rfl

/-- The names that are shown are those of the fields that are shown for their values. -/
theorem mem_map_name_ofFields {fs : List Field} {m : Members} {n : String} :
    n ∈ (Content.ofFields fs m).map Content.name ↔
      ∃ f ∈ fs, f.name = n ∧ isShown f.required (m.get? f.name) = true := by
  induction fs with
  | nil => simp [Content.ofFields]
  | cons f fs ih =>
    rw [Content.ofFields, List.map_append, List.mem_append, ih, List.exists_mem_cons_iff]
    -- the cases are those of the value: none, null, a list, or anything else
    refine or_congr_left ?_
    have hname (v : Value) : (Content.ofValue f v).name = f.name := Content.name_ofValue f v
    cases h : m.get? f.name with
    | none => cases f.required <;> simp [isShown, hname, eq_comm]
    | some v =>
      cases v with
      | null => cases f.required <;> simp [isShown, hname, eq_comm]
      | array xs =>
        cases xs with
        | nil => simp [isShown, isEmptyList]
        | cons x xs => simp [isShown, isEmptyList, hname, eq_comm]
      | _ => simp [isShown, isEmptyList, hname, eq_comm]

theorem not_shown_iff {fs : List Field} {m : Members} {f : Field} (hf : f ∈ fs)
    (hrequired : f.required = true) :
    f.name ∉ (Content.ofFields fs m).map Content.name ↔ isEmptyList (m.get? f.name) = true := by
  rw [mem_map_name_ofFields]
  constructor
  · intro h
    by_contra hne
    refine h ⟨f, hf, rfl, ?_⟩
    rw [hrequired, isShown_required]
    simpa using hne
  · rintro h ⟨g, -, hg, hshown⟩
    rw [hg, isShown_of_isEmptyList h] at hshown
    exact absurd hshown Bool.false_ne_true

theorem missingFields_ofFields (fs : List Field) (m : Members) :
    missingFields fs ((Content.ofFields fs m).map Content.name) =
      (fs.filter fun f => f.required && isEmptyList (m.get? f.name)).map Field.name := by
  rw [missingFields]
  congr 1
  refine List.filter_congr fun f hf => ?_
  by_cases hrequired : f.required = true
  · rw [Bool.eq_iff_iff]
    simpa [hrequired] using not_shown_iff hf hrequired
  · simp [hrequired]

theorem unexpectedNames_ofFields (fs : List Field) (m : Members) :
    unexpectedNames fs ((Content.ofFields fs m).map Content.name) = [] := by
  rw [List.eq_nil_iff_forall_not_mem]
  intro n hn
  obtain ⟨hmem, hnone⟩ := ((areUnexpected_unexpectedNames _ _).mem_iff n).mp hn
  obtain ⟨f, hf, hname, -⟩ := mem_map_name_ofFields.mp hmem
  exact hnone f hf hname

/-- Names that are shown are accepted unless a required field has a list without members. -/
theorem accepts_ofFields {fs : List Field} {m : Members} (strict : Bool) :
    Accepts strict fs ((Content.ofFields fs m).map Content.name) ↔
      ∀ f ∈ fs, f.required = true → m.get? f.name ≠ some (.array []) := by
  constructor
  · intro h f hf hrequired hempty
    have habsent := (not_shown_iff (m := m) hf hrequired).mpr (isEmptyList_iff.mpr hempty)
    exact habsent (h.required_mem f hf hrequired)
  · intro h
    refine ⟨fun f hf hrequired => ?_, fun _ n hn => ?_⟩
    · by_contra habsent
      have hempty := (not_shown_iff hf hrequired).mp habsent
      exact h f hf hrequired (isEmptyList_iff.mp hempty)
    · obtain ⟨f, hf, hname, -⟩ := mem_map_name_ofFields.mp hn
      exact ⟨f, hf, hname⟩

/-! ## The verdict -/

theorem hasWrapper_message {text : String} {o : Operation} {d : Direction} {values : Members}
    (h : Node.parse (Text.utf8 text) =
      .ok (envelopeNode ((Content.ofMessage o d values).toNode Content.readBack))) :
    HasWrapper (Text.utf8 text) o.name d
      ((Content.ofMessage o d values).toNode Content.readBack) := by
  refine ⟨.mk "Body" [] [(Content.ofMessage o d values).toNode Content.readBack] "",
    ⟨_, h, rfl, rfl⟩, ?_⟩
  simp [Node.child, Node.children, Content.ofMessage, Content.toNode, Node.name]

/-- The verdict in strict mode on an envelope that is built for an operation of a loaded
description: nothing is unexpected, and what is missing are the required fields whose value is
a list without members. -/
theorem validate_build {octets : Text.Octets} {m : Model} (hm : Model.load octets = .ok m)
    {o : Operation} (ho : o ∈ m.operations.map (·.2)) {direction : Value} {d : Direction}
    (hd : Direction.ofValue direction = .ok d)
    (hoperation : NameClass.plain.isName o.name.toList = true) (values : Members)
    (hnames : ∀ n ∈ Content.allNames (Content.ofFields (o.fieldsFor d) values),
      NameClass.plain.isName n.toList = true)
    (htexts : ∀ t ∈ Content.allTexts (Content.ofFields (o.fieldsFor d) values),
      isXmlText t.toList = true) :
    ∃ text v, build o direction values defaultNamespace = .ok text ∧
      validate m true (Text.utf8 text) o.name direction = .ok v ∧
      v.unexpected = [] ∧
      v.missing = ((o.fieldsFor d).filter fun f =>
        f.required && isEmptyList (values.get? f.name)).map Field.name ∧
      (v.valid = true ↔
        ∀ f ∈ o.fieldsFor d, f.required = true → values.get? f.name ≠ some (.array [])) := by
  have huri : Declarable defaultNamespace := ⟨by decide, by decide, by decide⟩
  obtain ⟨text, hbuild, hparse⟩ := parse_buildIn (isName_ofMessage hoperation hnames) htexts huri
  have hjudge := validateIn_of_hasWrapper (Model.operation?_load hm ho)
    (hasWrapper_message hparse) true
  -- the names in the wrapper are those of the content, whatever its texts are read back as
  have hpresent : ((Content.ofMessage o d values).toNode Content.readBack).childNames =
      (Content.ofFields (o.fieldsFor d) values).map Content.name :=
    Content.map_name_toNodes _ _
  rw [hpresent] at hjudge
  refine ⟨text, _, ?_, validate_eq hd hjudge, unexpectedNames_ofFields _ _,
    missingFields_ofFields _ _, ?_⟩
  · simp only [build, hd, hbuild]
  · exact (judge_valid_iff true o.name _ _).trans (accepts_ofFields true)

/-- A description of a service with one operation, which takes one required field. -/
def pingService : String :=
  "<d><types><schema><element name='PingRequest'><complexType><sequence><element name='a'/></sequence></complexType></element></schema></types><binding><operation name='Ping'/></binding></d>"

set_option maxRecDepth 4000 in
theorem load_pingService : ∃ m o type children, Model.load (Text.utf8 pingService) = .ok m ∧
    o ∈ m.operations.map (·.2) ∧ o.name = "Ping" ∧ o.input = [.mk "a" type true children] := by
  have hdeclared : (Model.load (Text.utf8 pingService)).toOption.map (fun m =>
      m.operations.map fun e => (e.2.name, e.2.input.map fun f => (f.name, f.required))) =
        some [("Ping", [("a", true)])] := by
    rw [pingService, Text.utf8_ofList]
    decide +kernel
  -- the fields' types are not compared above, so they are taken from the model that was loaded
  cases hload : Model.load (Text.utf8 pingService) with
  | error e =>
    rw [hload] at hdeclared
    exact absurd hdeclared (Option.some_ne_none _).symm
  | ok m =>
    rw [hload] at hdeclared
    obtain ⟨e, rest, hm, he, -⟩ := List.map_eq_cons_iff.mp (Option.some.inj hdeclared)
    obtain ⟨hname, hinput⟩ := Prod.mk.inj he
    obtain ⟨⟨name, type, required, children⟩, tail, hfields, hfield, hnil⟩ :=
      List.map_eq_cons_iff.mp hinput
    obtain rfl := List.map_eq_nil_iff.mp hnil
    obtain ⟨rfl, rfl⟩ := Prod.mk.inj hfield
    refine ⟨m, e.2, type, children, rfl, ?_, hname, hfields⟩
    rw [hm]
    exact List.mem_cons_self

/-- A list without members for the required field leaves the field out. -/
theorem validate_build_emptyList : ∃ m o text v,
    Model.load (Text.utf8 pingService) = .ok m ∧ o ∈ m.operations.map (·.2) ∧ o.name = "Ping" ∧
      build o (.text "input") [("a", .array [])] defaultNamespace = .ok text ∧
        validate m true (Text.utf8 text) "Ping" (.text "input") = .ok v ∧
          v.valid = false ∧ v.missing = ["a"] := by
  obtain ⟨m, o, type, children, hload, ho, hname, hinput⟩ := load_pingService
  have hcontent : Content.ofFields (o.fieldsFor .input) [("a", .array [])] = [] := by
    rw [Operation.fieldsFor, hinput]
    rfl
  have hdirection : Direction.ofValue (.text "input") = .ok .input := rfl
  have hoperation : NameClass.plain.isName o.name.toList = true := by
    rw [hname]
    decide
  obtain ⟨text, v, hbuild, hvalidate, -, hmissing, hvalid⟩ := validate_build hload ho hdirection
    hoperation [("a", .array [])] (by rw [hcontent]; exact fun _ h => absurd h List.not_mem_nil)
    (by rw [hcontent]; exact fun _ h => absurd h List.not_mem_nil)
  rw [hname] at hvalidate
  rw [Operation.fieldsFor, hinput] at hmissing hvalid
  refine ⟨m, o, text, v, hload, ho, hname, hbuild, hvalidate, ?_, hmissing⟩
  rw [Bool.eq_false_iff, ne_eq, hvalid]
  exact fun h => h _ List.mem_cons_self rfl rfl

end ContractDrift.Soap
