/-
Namespaces do not matter.

Names are compared by their local parts only (`HasLocalPart`), which all names of a document have
and of which a tree keeps nothing else.  So documents whose elements and attributes differ only in
their namespaces are read as one.

Design notes: a namespace may hold anything but a closing brace, colons and opening braces
included.  Attributes of one element are compared as a mapping from local parts to values
(`SameLocalForm`), in which no local part stands twice.
-/
import Mathlib.Data.List.Pairwise
import ContractDrift.Proofs.Drift.SameDocument
import ContractDrift.Proofs.Xml.LocalParts

namespace ContractDrift.Xml

/-! ## Names and attributes in other namespaces -/

/-- Two names have the same local part. -/
def SameLocalPart (name name' : String) : Prop :=
  ∀ l, HasLocalPart l name ↔ HasLocalPart l name'

/-- No two attributes have one local part. -/
def LocalPartsDiffer (attributes : List (String × String)) : Prop :=
  attributes.Pairwise fun a b => ∀ l, HasLocalPart l a.1 → ¬ HasLocalPart l b.1

/-- Two lists of attributes, in each of which all local parts differ, give the same values to the
same local parts. -/
structure SameLocalForm (attributes attributes' : List (String × String)) : Prop where
  differ : LocalPartsDiffer attributes
  differ' : LocalPartsDiffer attributes'
  values_iff : ∀ l value, (∃ a ∈ attributes, HasLocalPart l a.1 ∧ a.2 = value) ↔
    ∃ a ∈ attributes', HasLocalPart l a.1 ∧ a.2 = value

variable {l : List Char} {name name' : String} {attributes attributes' : List (String × String)}

theorem SameLocalPart.of_hasLocalPart (h : HasLocalPart l name) (h' : HasLocalPart l name') :
    SameLocalPart name name' := by
  intro l'
  constructor
  · intro hl
    rwa [← h.unique hl]
  · intro hl
    rwa [← h'.unique hl]

theorem LocalPartsDiffer.isConsistent (h : LocalPartsDiffer attributes)
    (hall : ∀ a ∈ attributes, IsExpanded a.1) : IsConsistent attributes := by
  intro a ha b hb hname
  by_contra hvalue
  have hne : a ≠ b := fun heq => hvalue (congrArg Prod.snd heq)
  have hsymm : Std.Symm fun a b : String × String =>
      ∀ l, HasLocalPart l a.1 → ¬ HasLocalPart l b.1 :=
    ⟨fun x y hxy l hy hx => hxy l hx hy⟩
  obtain ⟨l, hl⟩ := hall a ha
  refine h.forall ha hb hne l hl ?_
  have hplain := plainName_of_hasLocalPart hl
  rw [hname, plainName_eq_iff (hall b hb), String.toList_ofList] at hplain
  exact hplain

/-- What differs in namespaces only does not show in a tree, where all names have local parts. -/
theorem isHidden_namespaces :
    IsHidden (fun n n' => SameLocalPart n n' ∧ IsExpanded n ∧ IsExpanded n')
      (fun as as' => SameLocalForm as as' ∧ (∀ x ∈ as, IsExpanded x.1) ∧
        ∀ x ∈ as', IsExpanded x.1) where
  name_eq := by
    rintro name name' ⟨h, ⟨l, hl⟩, -⟩
    rw [plainName_of_hasLocalPart hl, plainName_of_hasLocalPart ((h l).mp hl)]
  lookup_eq := by
    rintro attributes attributes' ⟨h, hall, hall'⟩
    refine (h.differ.isConsistent hall).lookup_eq (h.differ'.isConsistent hall') ?_
    intro key value
    have hkey {as : List (String × String)} (has : ∀ x ∈ as, IsExpanded x.1) :
        (∃ a ∈ as, plainName a.1 = key ∧ a.2 = value) ↔
          ∃ a ∈ as, HasLocalPart key.toList a.1 ∧ a.2 = value :=
      exists_congr fun a => and_congr_right fun ha =>
        and_congr_left fun _ => plainName_eq_iff (has a ha)
    rw [hkey hall, hkey hall', h.values_iff]

end ContractDrift.Xml

namespace ContractDrift.Drift

open ContractDrift.Xml

/-- Namespaces do not matter.  Two documents whose elements have the same shape, local names,
texts and attributes by local name, and differ at most in the namespaces that their elements and
attributes belong to, have the same tree; hence they have the same model, get the same verdicts
as envelopes and the same results as live service descriptions. -/
theorem readAlike_of_namespaces {document document' : Text.Octets} {e e' : Element}
    (h : Document.read document = .ok e) (h' : Document.read document' = .ok e')
    (hsame : e.Alike SameLocalPart SameLocalForm e') : ReadAlike document document' := by
  have hnamed := hsame.restrict (namesAll_of_read h) (namesAll_of_read h')
  exact readAlike_of_same (parse_of_read h) (parse_of_read h')
    (same_ofElement isHidden_namespaces hnamed)

/-! ## A description in a namespace and in none -/

/-- A description that names its elements and an attribute with a prefix. -/
def prefixedService : String :=
  "<w:d xmlns:w='urn:a:\x7bb'><w:binding><w:operation w:name='Ping'/></w:binding></w:d>"

/-- The same description without namespaces. -/
def plainService : String := "<d><binding><operation name='Ping'/></binding></d>"

/-- The elements of a description of one operation, their names given by their local parts. -/
def serviceElement (qualify : List Char → String) : Element :=
  .mk (qualify ['d']) [] "" [.mk (qualify "binding".toList) [] ""
    [.mk (qualify "operation".toList) [(qualify "name".toList, "Ping")] "" []]]

theorem serviceElement_alike {qualify requalify : List Char → String}
    (h : ∀ l, '\x7b' ∉ l → ':' ∉ l → HasLocalPart l (qualify l) ∧ HasLocalPart l (requalify l)) :
    (serviceElement qualify).Alike SameLocalPart SameLocalForm (serviceElement requalify) := by
  have hsame (l : List Char) (hbrace : '\x7b' ∉ l) (hcolon : ':' ∉ l) :
      SameLocalPart (qualify l) (requalify l) :=
    .of_hasLocalPart (h l hbrace hcolon).1 (h l hbrace hcolon).2
  have hname := hsame "name".toList (by decide) (by decide)
  have hnone : SameLocalForm [] [] := ⟨.nil, .nil, fun _ _ => Iff.rfl⟩
  have hone : SameLocalForm [(qualify "name".toList, "Ping")] [(requalify "name".toList, "Ping")] :=
    ⟨List.pairwise_singleton _ _, List.pairwise_singleton _ _, fun l value => by
      simp only [List.mem_singleton, exists_eq_left, hname l]⟩
  refine .mk (hsame _ (by decide) (by decide)) hnone (.cons ?_ .nil)
  refine .mk (hsame _ (by decide) (by decide)) hnone (.cons ?_ .nil)
  exact .mk (hsame _ (by decide) (by decide)) hone .nil

theorem read_prefixedService : Document.read (Text.utf8 prefixedService) =
    .ok (serviceElement (Scope.expanded "urn:a:\x7bb".toList)) := by
  rw [prefixedService, Text.utf8_ofList]
  decide +kernel

theorem read_plainService :
    Document.read (Text.utf8 plainService) = .ok (serviceElement String.ofList) := by
  rw [plainService, Text.utf8_ofList]
  decide +kernel

theorem readAlike_of_namespaces_service :
    ReadAlike (Text.utf8 prefixedService) (Text.utf8 plainService) :=
  readAlike_of_namespaces read_prefixedService read_plainService <|
    serviceElement_alike fun l hbrace hcolon =>
      ⟨.inNamespace (by decide) hcolon, .inNone hbrace hcolon⟩

end ContractDrift.Drift
