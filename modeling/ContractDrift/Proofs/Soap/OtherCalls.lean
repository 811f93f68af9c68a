/-
A built envelope against other calls.

A call is an operation in one direction, and its message is wrapped in an element that is named
after both.  The name tells the call (`wrapperName_inj`): neither of the two endings ends the
other, so whatever an operation's own name ends in is not taken for one.  Hence a built envelope
has the wrapper of its own call and of no other (`hasWrapper_iff_of_parse`), and the verdict on it
for any other call is that the wrapper is not found (`validate_otherCall`).

Design notes: an operation of a model is one that the model finds under its own name.  Every
operation of a loaded description is one (`Model.operation?_load`), and of one name there is only
one, so that two calls differ in the name or in the direction.
-/
import ContractDrift.Proofs.Soap.BuildValidate

namespace ContractDrift.Soap

open ContractDrift.Json (Value Members)
open ContractDrift.Wsdl (Direction Model Operation wrapperName)
open ContractDrift.Xml (Node NameClass isXmlText)

variable {m : Model} {o o' : Operation} {d d' : Direction} {values : Members}

/-! ## Names of wrappers -/

/-- No request is named like a response. -/
theorem request_ne_response (name name' : String) :
    wrapperName name .input ≠ wrapperName name' .output := by
  intro h
  have hlast := congrArg (fun s : String => s.toList.getLast?) h
  simp [wrapperName, Direction.ending] at hlast

/-- The name of a wrapper tells the operation and the direction. -/
theorem wrapperName_inj {name name' : String} (h : wrapperName name d = wrapperName name' d') :
    name = name' ∧ d = d' := by
  have hd : d = d' := by
    cases d with
    | input =>
      cases d' with
      | input => rfl
      | output => exact absurd h (request_ne_response name name')
    | output =>
      cases d' with
      | input => exact absurd h.symm (request_ne_response name' name)
      | output => rfl
  subst hd
  exact ⟨(String.append_left_inj _).mp h, rfl⟩

/-- A model has one operation of a name. -/
theorem eq_of_operation?_name (ho : m.operation? o.name = some o)
    (ho' : m.operation? o'.name = some o') (h : o'.name = o.name) : o' = o := by
  rw [h, ho] at ho'
  exact (Option.some.inj ho').symm

/-! ## The wrapper in an envelope -/

theorem hasBody_of_parse {octets : Text.Octets} {message : Node}
    (h : Node.parse octets = .ok (envelopeNode message)) :
    HasBody octets (.mk "Body" [] [message] "") := ⟨_, h, rfl, rfl⟩

/-- The only message of a body is found under its own name. -/
theorem child_body_eq_some_iff {message content : Node} {name : String} :
    (Node.mk "Body" [] [message] "").child name = some content ↔
      name = message.name ∧ content = message := by
  rw [Node.child, Node.children, List.find?_singleton]
  by_cases hname : name = message.name
  · simp [hname, eq_comm]
  · simp [hname, Ne.symm hname]

/-- A built envelope has the wrapper of its own call and of no other. -/
theorem hasWrapper_iff_of_parse {text name : String} {content : Node}
    (h : Node.parse (Text.utf8 text) =
      .ok (envelopeNode ((Content.ofMessage o d values).toNode Content.readBack))) :
    HasWrapper (Text.utf8 text) name d' content ↔
      (name = o.name ∧ d' = d) ∧
        content = (Content.ofMessage o d values).toNode Content.readBack := by
  have hbody := hasBody_of_parse h
  have hname : ((Content.ofMessage o d values).toNode Content.readBack).name =
      wrapperName o.name d := Content.name_toNode _ _
  have hcall : wrapperName name d' = wrapperName o.name d ↔ name = o.name ∧ d' = d :=
    ⟨wrapperName_inj, by rintro ⟨rfl, rfl⟩; rfl⟩
  constructor
  · rintro ⟨body, hbody', hchild⟩
    -- the body has the message as its only child, so the wrapper is this child or there is none
    rw [hbody'.unique hbody, child_body_eq_some_iff, hname, hcall] at hchild
    exact hchild
  · intro hcontent
    refine ⟨_, hbody, ?_⟩
    rwa [child_body_eq_some_iff, hname, hcall]

/-! ## The verdict -/

/-- An envelope is taken for no call but its own.  The verdict on it for another call of the
model, in either mode and whatever the fields of the two, is that the wrapper of that call is not
found: nothing else is missing and nothing is unexpected. -/
theorem validate_otherCall {direction direction' : Value} {uri : String} (values : Members)
    (hd : Direction.ofValue direction = .ok d) (hd' : Direction.ofValue direction' = .ok d')
    (ho : m.operation? o.name = some o) (ho' : m.operation? o'.name = some o')
    (hother : (o, d) ≠ (o', d')) (hoperation : NameClass.plain.isName o.name.toList = true)
    (hnames : ∀ n ∈ Content.allNames (Content.ofFields (o.fieldsFor d) values),
      NameClass.plain.isName n.toList = true)
    (htexts : ∀ t ∈ Content.allTexts (Content.ofFields (o.fieldsFor d) values),
      isXmlText t.toList = true)
    (huri : Declarable uri) :
    ∃ text, build o direction values uri = .ok text ∧ ∀ strict,
      validate m strict (Text.utf8 text) o'.name direction' =
        .ok ⟨false, [wrapperName o'.name d' ++ " element not found in SOAP Body"], [],
          o'.name⟩ := by
  obtain ⟨text, hbuild, hparse⟩ := parse_buildIn (isName_ofMessage hoperation hnames) htexts huri
  refine ⟨text, by simp only [build, hd, hbuild], fun strict => validate_eq hd' ?_⟩
  have hbody := hasBody_of_parse hparse
  refine validateIn_of_child_none ho' hbody ?_ strict
  -- what is found in the body under the name of a call is the message of that call
  cases hchild : (Node.mk "Body" [] [_] "").child (wrapperName o'.name d') with
  | none => rfl
  | some content =>
    obtain ⟨⟨hname, hdirection⟩, -⟩ :=
      (hasWrapper_iff_of_parse hparse).mp ⟨_, hbody, hchild⟩
    have hoperation' := eq_of_operation?_name ho ho' hname
    exact absurd (by rw [hoperation', hdirection]) hother

/-- Operations of which one is named like the response to the other. -/
def confusable : Model :=
  ⟨[], [("Get", ⟨"Get", "", [], [.mk "item" "string" true none]⟩),
    ("GetResponse", ⟨"GetResponse", "", [.mk "item" "string" true none], []⟩)]⟩

/-- The response to one operation is no request for the other, though both have the same field. -/
theorem validate_otherCall_confusable : ∃ text,
    build ⟨"Get", "", [], [.mk "item" "string" true none]⟩ (.text "output")
        [("item", .text "a")] defaultNamespace = .ok text ∧
      ∀ strict, validate confusable strict (Text.utf8 text) "GetResponse" (.text "input") =
        .ok ⟨false, ["GetResponseRequest element not found in SOAP Body"], [], "GetResponse"⟩ := by
  have hdirection : Direction.ofValue (.text "output") = .ok .output := rfl
  have hdirection' : Direction.ofValue (.text "input") = .ok .input := rfl
  have hother : ((⟨"Get", "", [], [.mk "item" "string" true none]⟩ : Operation),
      Direction.output) ≠ (⟨"GetResponse", "", [.mk "item" "string" true none], []⟩,
        Direction.input) := fun h => absurd (Prod.mk.inj h).2 (by decide)
  exact validate_otherCall (m := confusable) [("item", .text "a")] hdirection hdirection' rfl rfl
    hother (by decide) (by decide) (by decide) ⟨by decide, by decide, by decide⟩

end ContractDrift.Soap
