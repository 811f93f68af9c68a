/-
Documents that are read as one.

Whatever reads a document reads its tree, so two documents with the same tree cannot be told apart
by their model, as envelopes of a verdict, or as the live side of a check of a service description
(`ReadAlike`).  `readAlike_of_same` reduces all of this to the trees.
-/
import ContractDrift.Proofs.Wsdl.SameModel
import ContractDrift.Drift.Detector
import ContractDrift.Soap.Validation

namespace ContractDrift.Soap

open ContractDrift.Text (Octets)
open ContractDrift.Wsdl (Direction Model Operation)
open ContractDrift.Xml (Node)

theorem bodyOf?_of_same {envelope envelope' : Node} (h : envelope.Same envelope') :
    Option.Rel Node.Same (bodyOf? envelope) (bodyOf? envelope') := by
  rw [bodyOf?, bodyOf?, h.name_eq]
  split
  · exact h.child "Body"
  · exact .none

/-- A verdict on a body depends on the names in it only. -/
theorem judgeBody_of_same (strict : Bool) (o : Operation) (name : String) (d : Direction)
    {body body' : Node} (h : body.Same body') :
    judgeBody strict o name d body = judgeBody strict o name d body' := by
  have hchild := h.child (Wsdl.wrapperName name d)
  unfold judgeBody
  generalize body.child (Wsdl.wrapperName name d) = content,
    body'.child (Wsdl.wrapperName name d) = content' at hchild
  cases hchild with
  | none => rfl
  | some hcontent => simp only [hcontent.childNames_eq]

/-- Envelopes with the same tree get the same verdict by models that are the same. -/
theorem validate_of_same {m m' : Model} (hm : m.Same m') {octets octets' : Octets}
    {envelope envelope' : Node} (hparse : Node.parse octets = .ok envelope)
    (hparse' : Node.parse octets' = .ok envelope') (h : envelope.Same envelope') (strict : Bool)
    (name : String) (direction : Json.Value) :
    validate m strict octets name direction = validate m' strict octets' name direction := by
  -- the direction is read first, and it is the same for both
  have hin (d : Direction) :
      validateIn m strict octets name d = validateIn m' strict octets' name d := by
    rw [validateIn, validateIn, Model.operation?, Model.operation?, hm.operations_eq, findBody,
      findBody, hparse, hparse']
    cases m'.operations.lookup name with
    | none => rfl
    | some o =>
      have hbody := bodyOf?_of_same h
      simp only [bind, Except.bind]
      generalize bodyOf? envelope = body, bodyOf? envelope' = body' at hbody
      cases hbody with
      | none => rfl
      | some hbody => simp only [judgeBody_of_same strict o name d hbody]
  unfold validate
  simp only [hin]

end ContractDrift.Soap

namespace ContractDrift.Drift

open ContractDrift.Text (Octets)
open ContractDrift.Wsdl (Model)
open ContractDrift.Xml (Node)

variable {document document' : Octets} {root root' : Node}

theorem wsdlNames_of_same (hparse : Node.parse document = .ok root)
    (hparse' : Node.parse document' = .ok root') (h : root.Same root') :
    wsdlNames document = wsdlNames document' := by
  simp only [wsdlNames, Model.load_of_parse hparse, Model.load_of_parse hparse',
    Model.operationNames, (Model.same_ofDefinitions h).operations_eq]

/-- A check depends on what it fetches by way of the names of the live contract. -/
theorem checkDrift_of_liveNames {a : Access} {c : Check}
    {fetch fetch' : String → Except Failure Octets}
    (h : ∀ address, c.address? = some address →
      (fetch address).bind (liveNames c.family) = (fetch' address).bind (liveNames c.family)) :
    checkDrift { a with fetch } c = checkDrift { a with fetch := fetch' } c := by
  have hbaseline : baselineNames { a with fetch } c = baselineNames { a with fetch := fetch' } c :=
    rfl
  unfold checkDrift
  cases haddress : c.address? with
  | none => rfl
  | some address =>
    simp only [compareLive, hbaseline, h address haddress]

/-- Two documents are read as one: their trees are the same and so are their models, as envelopes
they get the same verdicts, and as live service descriptions the same results. -/
structure ReadAlike (document document' : Octets) : Prop where
  parse : ∃ root root', Node.parse document = .ok root ∧ Node.parse document' = .ok root' ∧
    root.Same root'
  load : ∃ m m', Model.load document = .ok m ∧ Model.load document' = .ok m' ∧ m.Same m'
  validate_eq : ∀ (m m' : Model) (strict : Bool) (name : String) (direction : Json.Value),
    m.Same m' → Soap.validate m strict document name direction =
      Soap.validate m' strict document' name direction
  checkDrift_eq : ∀ (a : Access) (c : Check) (fetch fetch' : String → Except Failure Octets),
    c.family = .wsdl →
    (∀ address, c.address? = some address →
      fetch address = .ok document ∧ fetch' address = .ok document') →
    checkDrift { a with fetch } c = checkDrift { a with fetch := fetch' } c

theorem readAlike_of_same (hparse : Node.parse document = .ok root)
    (hparse' : Node.parse document' = .ok root') (h : root.Same root') :
    ReadAlike document document' := by
  refine ⟨⟨root, root', hparse, hparse', h⟩, ?_, fun m m' strict name direction hm => ?_,
    fun a c fetch fetch' hfamily hfetch => ?_⟩
  · exact ⟨_, _, Model.load_of_parse hparse, Model.load_of_parse hparse',
      Model.same_ofDefinitions h⟩
  · exact Soap.validate_of_same hm hparse hparse' h strict name direction
  · refine checkDrift_of_liveNames fun address haddress => ?_
    obtain ⟨hdocument, hdocument'⟩ := hfetch address haddress
    rw [hdocument, hdocument', hfamily]
    exact wsdlNames_of_same hparse hparse' h

end ContractDrift.Drift
