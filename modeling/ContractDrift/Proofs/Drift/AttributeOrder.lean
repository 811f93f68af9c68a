/-
The order in which attributes are written.

A tree has one value for each local name of an attribute, and if several attributes of an element
have this name the one that is written last decides.  So two documents that differ in the order of
attributes are read as one exactly if the last attributes of each local name agree
(`LastsAgree`), and in particular if no element gives two values to one local name
(`Element.Unambiguous`).  `readAlike_of_isReordering` puts this together.

Where an element gives two values the order decides (`not_same_ambiguous`): an attribute in a
foreign namespace counts for the element's own attribute of the same local name, if it is
written behind it.
-/
import ContractDrift.Proofs.Drift.SameDocument
import ContractDrift.Proofs.Xml.Reordered
import ContractDrift.Proofs.Xml.WellFormed

namespace ContractDrift.Xml

/-! ## Last attributes -/

/-- In two lists of attributes the last ones of each local name have the same value. -/
def LastsAgree (attributes attributes' : List (String × String)) : Prop :=
  ∀ key value, IsLast attributes key value ↔ IsLast attributes' key value

variable {attributes attributes' : List (String × String)}

theorem lastsAgree_iff : LastsAgree attributes attributes' ↔
    ∀ key, (localAttributes attributes).lookup key = (localAttributes attributes').lookup key := by
  refine forall_congr' fun key => ?_
  simp only [← lookup_localAttributes_eq_some_iff]
  exact ⟨fun h => Option.ext h, fun h value => by rw [h]⟩

theorem isHidden_lastsAgree : IsHidden (· = ·) LastsAgree where
  name_eq name name' h := by rw [h]
  lookup_eq attributes attributes' h := lastsAgree_iff.mp h

/-- No element gives two values to attributes of one local name. -/
inductive Element.Unambiguous : Element → Prop
  | mk {name text : String} {attributes : List (String × String)} {children : List Element} :
      IsConsistent attributes → (∀ c ∈ children, Element.Unambiguous c) →
      Element.Unambiguous (.mk name attributes text children)

mutual

/-- Where no element gives two values to one local name, the last attributes agree. -/
theorem alike_of_unambiguous : ∀ {e e' : Element}, e.Reorders e' → e.Unambiguous →
    e.Alike (· = ·) LastsAgree e'
  | .mk _ _ _ _, .mk _ _ _ _, .mk hname hperm hchildren, .mk hconsistent hall =>
    .mk hname (lastsAgree_iff.mpr (lookup_localAttributes_perm_iff.mpr hconsistent _ hperm))
      (alikeAll_of_unambiguous hchildren hall)

theorem alikeAll_of_unambiguous : ∀ {es es' : List Element},
    List.Forall₂ Element.Reorders es es' → (∀ e ∈ es, e.Unambiguous) →
    List.Forall₂ (Element.Alike (· = ·) LastsAgree) es es'
  | [], [], .nil, _ => .nil
  | _ :: _, _ :: _, .cons h hs, hall =>
    .cons (alike_of_unambiguous h (hall _ List.mem_cons_self))
      (alikeAll_of_unambiguous hs fun e he => hall e (List.mem_cons_of_mem _ he))

end

mutual

/-- Elements that differ in the order of attributes and have the same tree agree in their last
attributes. -/
theorem alike_of_same : ∀ {e e' : Element}, e.Reorders e' →
    (Node.ofElement e).Same (Node.ofElement e') → e.Alike (· = ·) LastsAgree e'
  | .mk _ _ _ _, .mk _ _ _ _, .mk hname _ hchildren, hsame => by
    rw [Node.ofElement, Node.ofElement] at hsame
    have hattributes := hsame.attr_eq
    have hnodes := hsame.children
    exact .mk hname (lastsAgree_iff.mpr hattributes) (alikeAll_of_same hchildren hnodes)

theorem alikeAll_of_same : ∀ {es es' : List Element}, List.Forall₂ Element.Reorders es es' →
    List.Forall₂ Node.Same (Node.ofElements es) (Node.ofElements es') →
    List.Forall₂ (Element.Alike (· = ·) LastsAgree) es es'
  | [], [], .nil, _ => .nil
  | _ :: _, _ :: _, .cons h hs, hsame => by
    rw [Node.ofElements, Node.ofElements] at hsame
    cases hsame with
    | cons hhead htail => exact .cons (alike_of_same h hhead) (alikeAll_of_same hs htail)

end

end ContractDrift.Xml

namespace ContractDrift.Drift

open ContractDrift.Text (Octets)
open ContractDrift.Wsdl (Model)
open ContractDrift.Xml

/-- Two documents that differ in the order of attributes have the same tree exactly if in all
elements the last attributes of each local name agree, which they do where no element gives two
values to one local name.  The documents then have the same model, get the same verdicts as
envelopes and the same results as live service descriptions.  This is because the last attribute
of a local name, in whatever namespace, tells the value that is read for the name. -/
theorem readAlike_of_isReordering {document document' : Octets} {e e' : Element}
    (h : Document.read document = .ok e) (h' : Document.read document' = .ok e')
    (hreordering : IsReordering document document') :
    (∃ root root', Node.parse document = .ok root ∧ Node.parse document' = .ok root' ∧
      (root.Same root' ↔ e.Alike (· = ·) LastsAgree e') ∧
      (e.Unambiguous → root.Same root') ∧
      (root.Same root' → ReadAlike document document')) ∧
    ∀ name attributes text children key value,
      (Node.ofElement (.mk name attributes text children)).attr key = some value ↔
        IsLast attributes key value := by
  have hparse := parse_of_read h
  have hparse' := parse_of_read h'
  have horder : e.Reorders e' := reorders_of_isReordering h h' hreordering
  have hsame : e.Alike (· = ·) LastsAgree e' → (Node.ofElement e).Same (Node.ofElement e') :=
    same_ofElement isHidden_lastsAgree
  refine ⟨⟨_, _, hparse, hparse', ⟨alike_of_same horder, hsame⟩, fun hunambiguous => ?_, ?_⟩,
    fun _ _ _ _ _ _ => lookup_localAttributes_eq_some_iff⟩
  · exact hsame (alike_of_unambiguous horder hunambiguous)
  · exact readAlike_of_same hparse hparse'

/-! ## An operation with a foreign attribute -/

/-- A description of one operation, whose tag has some attributes. -/
def operationWith (attributes : String) : Octets :=
  ["<d xmlns:f='urn:f'><binding><operation", attributes, "/></binding></d>"].flatMap Text.utf8

/-- The elements of such a description. -/
def operationElement (attributes : List (String × String)) : Element :=
  .mk "d" [] "" [.mk "binding" [] "" [.mk "operation" attributes "" []]]

theorem read_operationWith : Document.read (operationWith " name='A' f:kind='B'") =
    .ok (operationElement [("name", "A"), ("\x7burn:f\x7dkind", "B")]) := by
  simp only [operationWith, List.flatMap_cons]
  repeat rw [Text.utf8_ofList]
  decide +kernel

theorem read_operationWith_reversed : Document.read (operationWith " f:kind='B' name='A'") =
    .ok (operationElement [("\x7burn:f\x7dkind", "B"), ("name", "A")]) := by
  simp only [operationWith, List.flatMap_cons]
  repeat rw [Text.utf8_ofList]
  decide +kernel

theorem isReordering_operationWith :
    IsReordering (operationWith " name='A' f:kind='B'") (operationWith " f:kind='B' name='A'") := by
  refine isReordering_of_check (n := 3) ?_
  simp only [operationWith, List.flatMap_cons]
  repeat rw [Text.utf8_ofList]
  decide +kernel

theorem unambiguous_operationElement {attributes : List (String × String)}
    (h : IsConsistent attributes) : (operationElement attributes).Unambiguous := by
  have hnone : IsConsistent [] := fun _ ha => absurd ha List.not_mem_nil
  have hleaf : (Element.mk "operation" attributes "" []).Unambiguous :=
    .mk h fun _ hc => absurd hc List.not_mem_nil
  have hbranch {name : String} {c : Element} (hc : c.Unambiguous) :
      (Element.mk name [] "" [c]).Unambiguous :=
    .mk hnone fun c' hc' => List.mem_singleton.mp hc' ▸ hc
  exact hbranch (hbranch hleaf)

/-- Attributes of different local names may be written in either order. -/
theorem readAlike_of_isReordering_operationWith :
    ReadAlike (operationWith " name='A' f:kind='B'") (operationWith " f:kind='B' name='A'") := by
  obtain ⟨⟨root, root', -, -, -, hunambiguous, hread⟩, -⟩ := readAlike_of_isReordering
    read_operationWith read_operationWith_reversed isReordering_operationWith
  have hconsistent : IsConsistent [("name", "A"), ("\x7burn:f\x7dkind", "B")] := by
    decide +kernel
  exact hread (hunambiguous (unambiguous_operationElement hconsistent))

/-- The tree of a description of one operation. -/
def operationTree (name : String) : Node :=
  .mk "d" [] [.mk "binding" [] [.mk "operation" [("name", name)] [] ""] ""] ""

theorem parse_ambiguous :
    Node.parse (operationWith " name='A' f:name='B'") = .ok (operationTree "B") ∧
      Node.parse (operationWith " f:name='B' name='A'") = .ok (operationTree "A") ∧
      IsReordering (operationWith " name='A' f:name='B'")
        (operationWith " f:name='B' name='A'") := by
  refine ⟨?_, ?_, isReordering_of_check (n := 3) ?_⟩
  all_goals
    simp only [operationWith, List.flatMap_cons]
    repeat rw [Text.utf8_ofList]
    decide +kernel

/-- An attribute in a foreign namespace counts for the name of an operation if it is written
behind it, so the order in which the two are written decides. -/
theorem not_same_ambiguous :
    ∃ root root', Node.parse (operationWith " name='A' f:name='B'") = .ok root ∧
      Node.parse (operationWith " f:name='B' name='A'") = .ok root' ∧
      IsReordering (operationWith " name='A' f:name='B'") (operationWith " f:name='B' name='A'") ∧
      ¬ root.Same root' ∧ (Model.ofDefinitions root).operationNames = ["B"] ∧
      (Model.ofDefinitions root').operationNames = ["A"] := by
  obtain ⟨hparse, hparse', hreordering⟩ := parse_ambiguous
  refine ⟨_, _, hparse, hparse', hreordering, fun hsame => ?_, by decide +kernel, by decide +kernel⟩
  have hnames : (Model.ofDefinitions (operationTree "B")).operationNames =
      (Model.ofDefinitions (operationTree "A")).operationNames := by
    rw [Model.operationNames, Model.operationNames, (Model.same_ofDefinitions hsame).operations_eq]
  exact absurd hnames (by decide +kernel)

end ContractDrift.Drift
