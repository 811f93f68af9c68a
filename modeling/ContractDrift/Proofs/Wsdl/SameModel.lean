/-
Models of trees that are the same.

A model is made from a tree by names, attributes by key and children, so trees that are the same
have the same model (`Model.same_ofDefinitions`): equal operations, and elements that are the same
under the same names.

Design notes: operations are equal and not only the same, since a field holds no attributes but
what three of them say.
-/
import ContractDrift.Proofs.Wsdl.Declarations
import ContractDrift.Proofs.Xml.SameTree

namespace ContractDrift.Wsdl

open ContractDrift.Xml (Node)

/-! ## Fields -/

theorem nonEmptyAttribute?_congr {attributes attributes' : List (String × String)}
    (h : ∀ key, attributes.lookup key = attributes'.lookup key) (key : String) :
    nonEmptyAttribute? attributes key = nonEmptyAttribute? attributes' key := by
  rw [nonEmptyAttribute?, nonEmptyAttribute?, h key]

mutual

theorem typeFields?_of_same : ∀ {nodes nodes' : List Node},
    List.Forall₂ Node.Same nodes nodes' → typeFields? nodes = typeFields? nodes'
  | [], [], .nil => rfl
  | .mk _ _ _ _ :: _, .mk _ _ _ _ :: _, .cons (.mk _ hchildren) hrest => by
    rw [typeFields?, typeFields?, sequenceFields_of_same hchildren, typeFields?_of_same hrest]
termination_by nodes => sizeOf nodes
decreasing_by all_goals simp only [List.cons.sizeOf_spec, Node.mk.sizeOf_spec]; omega

theorem sequenceFields_of_same : ∀ {nodes nodes' : List Node},
    List.Forall₂ Node.Same nodes nodes' → sequenceFields nodes = sequenceFields nodes'
  | [], [], .nil => rfl
  | .mk _ _ _ _ :: _, .mk _ _ _ _ :: _, .cons (.mk _ hchildren) hrest => by
    rw [sequenceFields, sequenceFields, itemFields_of_same hchildren,
      sequenceFields_of_same hrest]
termination_by nodes => sizeOf nodes
decreasing_by all_goals simp only [List.cons.sizeOf_spec, Node.mk.sizeOf_spec]; omega

theorem itemFields_of_same : ∀ {nodes nodes' : List Node},
    List.Forall₂ Node.Same nodes nodes' → itemFields nodes = itemFields nodes'
  | [], [], .nil => rfl
  | .mk _ attributes _ _ :: _, .mk _ attributes' _ _ :: _,
      .cons (.mk hattributes hchildren) hrest => by
    have hrequired : isRequired attributes = isRequired attributes' := by
      rw [isRequired, isRequired, hattributes]
    rw [itemFields, itemFields, nonEmptyAttribute?_congr hattributes,
      nonEmptyAttribute?_congr hattributes "type", hrequired, typeFields?_of_same hchildren,
      itemFields_of_same hrest]
termination_by nodes => sizeOf nodes
decreasing_by all_goals simp only [List.cons.sizeOf_spec, Node.mk.sizeOf_spec]; omega

end

theorem fieldsOf_of_same {e e' : Node} (h : e.Same e') : fieldsOf e = fieldsOf e' := by
  rw [fieldsOf, fieldsOf, typeFields?_of_same h.children]

/-! ## Entries by name -/

/-- Entries that stand under the same names in the same order, with related values. -/
def EntriesAlike {α β : Type} (related : α → β → Prop) (entries : List (String × α))
    (entries' : List (String × β)) : Prop :=
  List.Forall₂ (fun entry entry' => entry.1 = entry'.1 ∧ related entry.2 entry'.2) entries entries'

section

variable {α β : Type} {related : α → β → Prop} {entries : List (String × α)}
  {entries' : List (String × β)}

theorem EntriesAlike.lookup (h : EntriesAlike related entries entries') (name : String) :
    Option.Rel related (entries.lookup name) (entries'.lookup name) := by
  induction h with
  | nil => exact .none
  | @cons entry entry' _ _ hentry _ ih =>
    obtain ⟨key, a⟩ := entry
    obtain ⟨key', b⟩ := entry'
    obtain ⟨rfl, hab⟩ : key = key' ∧ related a b := hentry
    rw [List.lookup_cons, List.lookup_cons]
    cases name == key with
    | true => exact .some hab
    | false => exact ih

theorem EntriesAlike.addFirst (h : EntriesAlike related entries entries') {name : String} {a : α}
    {b : β} (hab : related a b) :
    EntriesAlike related (addFirst entries name a) (addFirst entries' name b) := by
  have hlookup := h.lookup name
  unfold Wsdl.addFirst
  generalize entries.lookup name = found, entries'.lookup name = found' at hlookup
  cases hlookup with
  | some => exact h
  | none => exact List.rel_append h (.cons ⟨rfl, hab⟩ .nil)

/-- Declarations that are the same are collected to the same entries. -/
theorem entriesAlike_collectFrom {value : String → Node → α} {value' : String → Node → β}
    {declarations declarations' : List Node}
    (hdeclarations : List.Forall₂ Node.Same declarations declarations')
    (hvalue : ∀ name {d d'}, Node.Same d d' → related (value name d) (value' name d'))
    (hentries : EntriesAlike related entries entries') :
    EntriesAlike related (collectFrom value entries declarations)
      (collectFrom value' entries' declarations') := by
  -- the two collections take the same step at each declaration
  induction hdeclarations generalizing entries entries' with
  | nil => exact hentries
  | @cons d d' declarations declarations' hd _ ih =>
    have hname : nonEmptyAttribute? d.attributes "name" = nonEmptyAttribute? d'.attributes "name" :=
      nonEmptyAttribute?_congr hd.attr_eq "name"
    rw [collectFrom, collectFrom, List.foldl_cons, List.foldl_cons, ← collectFrom, ← collectFrom,
      hname]
    refine ih ?_
    cases nonEmptyAttribute? d'.attributes "name" with
    | none => exact hentries
    | some name => exact hentries.addFirst (hvalue name hd)

end

/-! ## Models -/

variable {root root' : Node}

theorem same_declaredOperations (h : root.Same root') :
    List.Forall₂ Node.Same (declaredOperations root) (declaredOperations root') :=
  List.rel_flatMap (h.childrenNamed "binding") fun _ _ hbinding =>
    hbinding.childrenNamed "operation"

theorem same_declaredElements (h : root.Same root') :
    List.Forall₂ Node.Same (declaredElements root) (declaredElements root') :=
  List.rel_flatMap (h.childrenNamed "types") fun _ _ htypes =>
    List.rel_flatMap (htypes.childrenNamed "schema") fun _ _ hschema =>
      hschema.childrenNamed "element"

theorem actionOf_of_same {d d' : Node} (h : d.Same d') : actionOf d = actionOf d' := by
  have hchild := h.child "operation"
  unfold actionOf
  generalize d.child "operation" = inner, d'.child "operation" = inner' at hchild
  cases hchild with
  | none => rfl
  | some hinner => simp only [hinner.attr_eq]

theorem messageFields_of_same {elements elements' : List (String × Node)}
    (h : EntriesAlike Node.Same elements elements') (wrapper : String) :
    messageFields elements wrapper = messageFields elements' wrapper := by
  have hlookup := h.lookup wrapper
  unfold messageFields
  generalize elements.lookup wrapper = found, elements'.lookup wrapper = found' at hlookup
  cases hlookup with
  | none => rfl
  | some he => exact fieldsOf_of_same he

/-- Two models are the same: their elements are, under the same names, and their operations are
equal. -/
structure Model.Same (m m' : Model) : Prop where
  elements : EntriesAlike Node.Same m.elements m'.elements
  operations_eq : m.operations = m'.operations

/-- Trees that are the same have the same model. -/
theorem Model.same_ofDefinitions (h : root.Same root') :
    (ofDefinitions root).Same (ofDefinitions root') := by
  have helements : EntriesAlike Node.Same (elementsOf root) (elementsOf root') := by
    rw [elementsOf_eq, elementsOf_eq]
    exact entriesAlike_collectFrom (same_declaredElements h) (fun _ _ _ hd => hd) .nil
  refine ⟨helements, ?_⟩
  -- an operation looks up its messages in elements that are alike
  have hoperation (name : String) {d d' : Node} (hd : d.Same d') :
      operationOf (elementsOf root) name d = operationOf (elementsOf root') name d' := by
    rw [operationOf, operationOf, actionOf_of_same hd, messageFields_of_same helements,
      messageFields_of_same helements]
  have hoperations : EntriesAlike (· = ·) (operationsOf root (elementsOf root))
      (operationsOf root' (elementsOf root')) := by
    rw [operationsOf_eq, operationsOf_eq]
    exact entriesAlike_collectFrom (same_declaredOperations h) hoperation .nil
  have heq := hoperations.imp fun entry entry' hentry => Prod.ext hentry.1 hentry.2
  exact List.forall₂_eq_eq_eq ▸ heq

end ContractDrift.Wsdl
