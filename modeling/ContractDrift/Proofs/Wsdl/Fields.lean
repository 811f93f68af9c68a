/-
The fields of a declared element.

The fields of an element are declared by the named elements in the first sequence of its first
complex type (`fieldNodes`).  `DescribesField` says what the descriptor of such a node is: its name,
type and whether it is required are read off the node, and the descriptors inside it correspond one
by one, in order, to what the node declares in its turn, and so on to every depth.  A field is
determined by this (`describesField_iff`), and so are the fields of an element (`mirrors_iff`);
`load_fields` says it of the messages of a loaded model.

Design notes: the fields are collected by three functions that walk lists of nodes together.  Each
of them is first told by the node that it comes to (`typeFields?_eq`, `sequenceFields_eq`) or the
nodes that it keeps (`itemFields_eq`), so that the induction is only on the size of a node.
-/
import ContractDrift.Proofs.Wsdl.Declarations

namespace ContractDrift.Wsdl

open ContractDrift.Text (Octets)
open ContractDrift.Xml (Node)

/-! ## What a node declares -/

/-- Whether a node has a name that is not empty. -/
def hasName (n : Node) : Bool := (n.attr "name").any (· ≠ "")

/-- The nodes that declare the fields of an element, in document order: the named elements in the
first sequence of its first complex type. -/
def fieldNodes (element : Node) : List Node :=
  match element.find ["complexType", "sequence"] with
  | none => []
  | some sequence => (sequence.childrenNamed "element").filter hasName

/-- The type that a node declares: that of its attribute, unless there is none or it is empty. -/
def DeclaresType (n : Node) (type : String) : Prop :=
  n.attr "type" = some type ∧ type ≠ "" ∨
    (∀ t, n.attr "type" = some t → t = "") ∧ type = "complex"

/-- A field is the descriptor of the node that declares it, and so are all the fields inside. -/
inductive DescribesField : Node → Field → Prop
  | mk {n : Node} {f : Field}
      (name_eq : n.attr "name" = some f.name)
      (type : DeclaresType n f.type)
      (optional_iff : f.required = false ↔ n.attr "minOccurs" = some "0")
      (plain_iff : f.children = none ↔ n.child "complexType" = none)
      (inner : ∀ fields, f.children = some fields →
        List.Forall₂ DescribesField (fieldNodes n) fields) : DescribesField n f

/-- Some fields correspond to what an element declares, one by one and in order. -/
def Mirrors (element : Node) (fields : List Field) : Prop :=
  List.Forall₂ DescribesField (fieldNodes element) fields

/-- Where the first complex type of an element has no sequence, no field is declared. -/
theorem fieldNodes_of_no_sequence {element type : Node}
    (htype : element.child "complexType" = some type) (hsequence : type.child "sequence" = none) :
    fieldNodes element = [] := by
  simp [fieldNodes, Node.find, htype, hsequence]

/-! ## What is collected -/

/-- The descriptor that is made of a node. -/
def descriptorOf (n : Node) : Field :=
  .mk ((nonEmptyAttribute? n.attributes "name").getD "")
    ((nonEmptyAttribute? n.attributes "type").getD defaultType) (isRequired n.attributes)
    (typeFields? n.children)

theorem typeFields?_eq (nodes : List Node) :
    typeFields? nodes =
      (nodes.find? (·.name == "complexType")).map fun type => sequenceFields type.children := by
  induction nodes with
  | nil => rw [typeFields?, List.find?_nil, Option.map_none]
  | cons n nodes ih =>
    obtain ⟨name, attributes, children, text⟩ := n
    by_cases h : name = "complexType"
    · rw [typeFields?, if_pos h, List.find?_cons_of_pos (by simpa [Node.name] using h)]
      rfl
    · rw [typeFields?, if_neg h, List.find?_cons_of_neg (by simpa [Node.name] using h), ih]

theorem sequenceFields_eq (nodes : List Node) :
    sequenceFields nodes =
      ((nodes.find? (·.name == "sequence")).map fun s => itemFields s.children).getD [] := by
  induction nodes with
  | nil => rw [sequenceFields, List.find?_nil, Option.map_none, Option.getD_none]
  | cons n nodes ih =>
    obtain ⟨name, attributes, children, text⟩ := n
    by_cases h : name = "sequence"
    · rw [sequenceFields, if_pos h, List.find?_cons_of_pos (by simpa [Node.name] using h)]
      rfl
    · rw [sequenceFields, if_neg h, List.find?_cons_of_neg (by simpa [Node.name] using h), ih]

theorem hasName_iff {n : Node} :
    hasName n = true ↔ ∃ name, nonEmptyAttribute? n.attributes "name" = some name := by
  simp only [hasName, nonEmptyAttribute?_eq_some_iff, Option.any_eq_true, decide_eq_true_eq]
  exact exists_congr fun name => and_comm

theorem itemFields_eq (nodes : List Node) :
    itemFields nodes =
      ((nodes.filter (·.name == "element")).filter hasName).map descriptorOf := by
  induction nodes with
  | nil => rw [itemFields]; rfl
  | cons n nodes ih =>
    obtain ⟨name, attributes, children, text⟩ := n
    rw [itemFields, List.filter_cons]
    by_cases h : name = "element"
    · rw [if_pos h, if_pos (by simpa [Node.name] using h), List.filter_cons]
      -- an element without a name, or with an empty one, is passed over
      cases hname : nonEmptyAttribute? attributes "name" with
      | none =>
        have hnot : hasName (.mk name attributes children text) ≠ true := by
          rw [ne_eq, hasName_iff]
          rintro ⟨found, hfound⟩
          cases hname.symm.trans hfound
        rw [if_neg hnot]
        exact ih
      | some found =>
        have hnamed : hasName (.mk name attributes children text) = true :=
          hasName_iff.mpr ⟨found, hname⟩
        rw [if_pos hnamed, List.map_cons, ← ih, descriptorOf]
        simp only [Node.attributes, Node.children, hname, Option.getD_some]
    · rw [if_neg h, if_neg (by simpa [Node.name] using h), ih]

/-- The fields of an element are the descriptors of the nodes that declare them. -/
theorem fieldsOf_eq (element : Node) :
    fieldsOf element = (fieldNodes element).map descriptorOf := by
  rw [fieldsOf, typeFields?_eq, fieldNodes, Node.find, Node.child]
  cases element.children.find? (·.name == "complexType") with
  | none => rfl
  | some type =>
    rw [Option.map_some, Option.getD_some, sequenceFields_eq]
    simp only [Node.find, Node.child]
    cases type.children.find? (·.name == "sequence") with
    | none => rfl
    | some sequence => exact itemFields_eq sequence.children

/-! ## The correspondence -/

theorem sizeOf_lt_of_child {n c : Node} {name : String} (h : n.child name = some c) :
    sizeOf c < sizeOf n := by
  obtain ⟨_, _, children, _⟩ := n
  have hlt := List.sizeOf_lt_of_mem (List.mem_of_find?_eq_some h)
  simp only [Node.children, Node.mk.sizeOf_spec] at hlt ⊢
  omega

theorem sizeOf_lt_of_mem_fieldNodes {element n : Node} (h : n ∈ fieldNodes element) :
    sizeOf n < sizeOf element := by
  rw [fieldNodes] at h
  cases htype : element.child "complexType" with
  | none => simp [Node.find, htype] at h
  | some type =>
    -- a field stands three steps below, and each step makes the node smaller
    cases hsequence : type.child "sequence" with
    | none => simp [Node.find, htype, hsequence] at h
    | some sequence =>
      simp only [Node.find, htype, hsequence, Node.childrenNamed, List.mem_filter] at h
      have hitem := List.sizeOf_lt_of_mem h.1.1
      have hinner := sizeOf_lt_of_child hsequence
      have houter := sizeOf_lt_of_child htype
      obtain ⟨_, _, _, _⟩ := sequence
      simp only [Node.children, Node.mk.sizeOf_spec] at hitem hinner
      omega

theorem hasName_of_mem_fieldNodes {element n : Node} (h : n ∈ fieldNodes element) :
    hasName n = true := by
  rw [fieldNodes] at h
  split at h
  · exact absurd h List.not_mem_nil
  · exact (List.mem_filter.mp h).2

theorem declaresType_descriptorOf (n : Node) : DeclaresType n (descriptorOf n).type := by
  rw [descriptorOf, Field.type]
  cases h : nonEmptyAttribute? n.attributes "type" with
  | some type =>
    obtain ⟨hne, htype⟩ := nonEmptyAttribute?_eq_some_iff.mp h
    exact .inl ⟨htype, hne⟩
  | none =>
    refine .inr ⟨fun t ht => ?_, rfl⟩
    by_contra hne
    exact nomatch h.symm.trans (nonEmptyAttribute?_eq_some_iff.mpr ⟨hne, ht⟩)

theorem DeclaresType.unique {n : Node} {type type' : String} (h : DeclaresType n type)
    (h' : DeclaresType n type') : type = type' := by
  rcases h with ⟨htype, hne⟩ | ⟨hempty, rfl⟩
  · rcases h' with ⟨htype', -⟩ | ⟨hempty', -⟩
    · exact Option.some.inj (htype.symm.trans htype')
    · exact absurd (hempty' type htype) hne
  · rcases h' with ⟨htype', hne'⟩ | ⟨-, rfl⟩
    · exact absurd (hempty type' htype') hne'
    · rfl

theorem isRequired_eq_false_iff {n : Node} :
    isRequired n.attributes = false ↔ n.attr "minOccurs" = some "0" := by
  rw [isRequired, bne_eq_false_iff_eq]
  rfl

theorem children_descriptorOf (n : Node) :
    (descriptorOf n).children =
      if n.child "complexType" = none then none else some (fieldsOf n) := by
  rw [fieldsOf, descriptorOf, Field.children, typeFields?_eq, Node.child]
  cases n.children.find? (·.name == "complexType") <;> rfl

theorem forall₂_iff_eq_map {α β : Type} {related : α → β → Prop} {g : α → β} {as : List α}
    (h : ∀ a ∈ as, ∀ b, related a b ↔ b = g a) {bs : List β} :
    List.Forall₂ related as bs ↔ bs = as.map g := by
  induction as generalizing bs with
  | nil => rw [List.forall₂_nil_left_iff, List.map_nil]
  | cons a as ih =>
    rw [List.forall_mem_cons] at h
    rw [List.forall₂_cons_left_iff, List.map_cons]
    constructor
    · rintro ⟨b, bs', hb, hbs, rfl⟩
      rw [(h.1 b).mp hb, (ih h.2).mp hbs]
    · rintro rfl
      exact ⟨_, _, (h.1 _).mpr rfl, (ih h.2).mpr rfl, rfl⟩

theorem Field.ext {f g : Field} (hname : f.name = g.name) (htype : f.type = g.type)
    (hrequired : f.required = g.required) (hchildren : f.children = g.children) : f = g := by
  obtain ⟨name, type, required, children⟩ := f
  obtain ⟨name', type', required', children'⟩ := g
  obtain rfl : name = name' := hname
  obtain rfl : type = type' := htype
  obtain rfl : required = required' := hrequired
  obtain rfl : children = children' := hchildren
  rfl

/-- A node that is named has one descriptor. -/
theorem describesField_iff {n : Node} (hname : hasName n = true) {f : Field} :
    DescribesField n f ↔ f = descriptorOf n := by
  -- what is inside a field describes smaller nodes
  have hinner (fields : List Field) :
      List.Forall₂ DescribesField (fieldNodes n) fields ↔ fields = fieldsOf n := by
    rw [fieldsOf_eq]
    exact forall₂_iff_eq_map fun a ha b => describesField_iff (hasName_of_mem_fieldNodes ha)
  have hdescriptor : n.attr "name" = some (descriptorOf n).name := by
    obtain ⟨name, hattribute⟩ := hasName_iff.mp hname
    rw [descriptorOf, Field.name, hattribute]
    exact (nonEmptyAttribute?_eq_some_iff.mp hattribute).2
  have hchildren := children_descriptorOf n
  constructor
  · rintro ⟨hname_eq, htype, hoptional, hplain, hfields⟩
    refine Field.ext (Option.some.inj (hname_eq.symm.trans hdescriptor))
      (htype.unique (declaresType_descriptorOf n)) ?_ ?_
    · rw [Bool.eq_iff_iff, ← not_iff_not, Bool.not_eq_true, Bool.not_eq_true, hoptional]
      exact isRequired_eq_false_iff.symm
    · rw [hchildren]
      split
      · exact hplain.mpr ‹_›
      · rename_i hcomplex
        obtain ⟨fields, hf⟩ := Option.ne_none_iff_exists'.mp (hcomplex ∘ hplain.mp)
        rw [hf, (hinner fields).mp (hfields fields hf)]
  · rintro rfl
    refine .mk hdescriptor (declaresType_descriptorOf n) isRequired_eq_false_iff ?_
      fun fields hfields => (hinner fields).mpr ?_
    · rw [hchildren]
      split <;> simp_all
    · rw [hchildren] at hfields
      split at hfields
      · exact nomatch hfields
      · exact (Option.some.inj hfields).symm
termination_by sizeOf n
decreasing_by exact sizeOf_lt_of_mem_fieldNodes ha

/-- The fields of an element are those that correspond to what it declares. -/
theorem mirrors_iff {element : Node} {fields : List Field} :
    Mirrors element fields ↔ fields = fieldsOf element := by
  rw [fieldsOf_eq]
  exact forall₂_iff_eq_map fun n hn f => describesField_iff (hasName_of_mem_fieldNodes hn)

/-- Of a node whose first complex type has no sequence, the descriptor has an empty list of fields
inside it, and not none. -/
theorem DescribesField.children_of_no_sequence {n type : Node} {f : Field}
    (h : DescribesField n f) (htype : n.child "complexType" = some type)
    (hsequence : type.child "sequence" = none) : f.children = some [] := by
  obtain ⟨-, -, -, hplain, hinner⟩ := h
  have hcomplex : f.children ≠ none := by simp [hplain, htype]
  obtain ⟨fields, hfields⟩ := Option.ne_none_iff_exists'.mp hcomplex
  have hnil := hinner fields hfields
  rw [fieldNodes_of_no_sequence htype hsequence, List.forall₂_nil_left_iff] at hnil
  rw [hfields, hnil]

/-! ## The fields of a loaded model -/

/-- The fields that a loaded model has.  The fields of every element are those that correspond, at
every depth, to what it declares.  The fields of a message are those of the first element that is
declared under the wrapper's name, and there are none if there is no such element.  A complex type
without a sequence gives an empty list of fields. -/
theorem load_fields {octets : Octets} {m : Model} (h : Model.load octets = .ok m) :
    ∃ root, Node.parse octets = .ok root ∧
      (∀ element fields, fields = fieldsOf element ↔ Mirrors element fields) ∧
      (∀ name o, m.operation? name = some o → ∀ d,
        (∃ e, m.elements.lookup (wrapperName name d) = some e ∧
          IsFirst (declaredElements root) (wrapperName name d) e ∧ Mirrors e (o.fieldsFor d)) ∨
        (∀ e ∈ declaredElements root, e.attr "name" ≠ some (wrapperName name d)) ∧
          o.fieldsFor d = []) ∧
      ∀ n f, DescribesField n f → ∀ type, n.child "complexType" = some type →
        type.child "sequence" = none → f.children = some [] := by
  obtain ⟨root, hparse, rfl⟩ := Model.load_eq_ok_iff.mp h
  refine ⟨root, hparse, fun _ _ => mirrors_iff.symm, fun name o ho d => ?_,
    fun n f hf type htype hsequence => hf.children_of_no_sequence htype hsequence⟩
  have hdescribes := Model.operation?_eq_some_iff.mp ho
  have hmessage : IsMessage root (wrapperName name d) (o.fieldsFor d) := by
    cases d with
    | input => exact hdescribes.input
    | output => exact hdescribes.output
  rcases hmessage with ⟨e, hfirst, hfields⟩ | hnone
  · exact .inl ⟨e, Model.lookup_elements_eq_some_iff.mpr ⟨wrapperName_ne name d, hfirst⟩, hfirst,
      mirrors_iff.mpr hfields⟩
  · exact .inr hnone

/-- A description with an entry that has no name, least numbers of occurrences other than zero, an
empty type, a second sequence and a second complex type, and a complex type without a sequence. -/
def placeService : Octets :=
  ["<definitions><types><schema><element name='PlaceRequest'><complexType><sequence>",
    "<element name='id' type='string'/><element type='string'/>",
    "<element name='note' type='' minOccurs='0'/><element name='code' minOccurs='00'/>",
    "<element name='lines' minOccurs=''><complexType><sequence><element name='sku'/></sequence>",
    "<sequence><element name='lost'/></sequence></complexType><complexType/></element>",
    "<element name='mark'><complexType/></element></sequence></complexType></element></schema>",
    "</types><binding><operation name='Place'/></binding></definitions>"].flatMap Text.utf8

/-- A node that is named and has no other attribute. -/
def entryOf (name : String) (types : List Node) : Node := .mk "element" [("name", name)] types ""

/-- A complex type with the given sequences. -/
def complexOf (sequences : List (List Node)) : Node :=
  .mk "complexType" [] (sequences.map (.mk "sequence" [] · "")) ""

/-- The element that the description declares. -/
def placeRequest : Node :=
  entryOf "PlaceRequest" [complexOf [[
    .mk "element" [("name", "id"), ("type", "string")] [] "",
    .mk "element" [("type", "string")] [] "",
    .mk "element" [("name", "note"), ("type", ""), ("minOccurs", "0")] [] "",
    .mk "element" [("name", "code"), ("minOccurs", "00")] [] "",
    .mk "element" [("name", "lines"), ("minOccurs", "")]
      [complexOf [[entryOf "sku" []], [entryOf "lost" []]], complexOf []] "",
    entryOf "mark" [complexOf []]]]]

/-- The fields that it declares. -/
def placeFields : List Field :=
  [.mk "id" "string" true none, .mk "note" "complex" false none, .mk "code" "complex" true none,
    .mk "lines" "complex" true (some [.mk "sku" "complex" true none]),
    .mk "mark" "complex" true (some [])]

set_option maxRecDepth 8000 in
theorem parse_placeService : Node.parse placeService =
    .ok (description
      [typesOf [placeRequest], bindingOf [.mk "operation" [("name", "Place")] [] ""]]) := by
  simp only [placeService, List.flatMap_cons]
  repeat rw [Text.utf8_ofList]
  decide +kernel

theorem fieldsOf_placeRequest : fieldsOf placeRequest = placeFields := by
  simp [fieldsOf, placeRequest, entryOf, complexOf, Node.children, typeFields?, sequenceFields,
    itemFields, nonEmptyAttribute?, isRequired, List.lookup_cons, defaultType, placeFields]

theorem load_fields_placeService : ∃ m o, Model.load placeService = .ok m ∧
    m.operation? "Place" = some o ∧ o.input = placeFields ∧ Mirrors placeRequest o.input ∧
      o.output = [] := by
  have hload := Model.load_of_parse parse_placeService
  obtain ⟨root, hparse, hfields, hmessages, -⟩ := load_fields hload
  obtain rfl := Except.ok.inj (parse_placeService.symm.trans hparse)
  refine ⟨_, ⟨"Place", "", fieldsOf placeRequest, []⟩, hload, rfl, fieldsOf_placeRequest,
    (hfields _ _).mp rfl, ?_⟩
  -- the answer has no element, so no field
  rcases hmessages "Place" _ rfl .output with ⟨e, helement, -⟩ | ⟨-, hnone⟩
  · cases helement
  · exact hnone

end ContractDrift.Wsdl
