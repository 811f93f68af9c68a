/-
Which declarations a model is made of.

A description declares operations and elements in several sections each
(`declaredOperations`, `declaredElements`).  Both are collected by one kind of loop, which keeps
the first declaration of each name (`lookup_collectFrom`), so a model holds just the first
declarations (`operation?_eq_some_iff`, `lookup_elements_eq_some_iff`).

Hence a declaration of a name that is declared before it changes nothing
(`ofDefinitions_of_repeats`), and where all names are distinct neither the order of the
declarations nor the sections in which they stand matter (`sameEntries_of_rearranged`).
`load_declarations` puts this together.

Design notes: declarations are lists of nodes in document order, over all sections.  A
declaration that is moved from one section to another is therefore one that is moved within
the list.
-/
import ContractDrift.Proofs.Wsdl.Model

namespace ContractDrift.Wsdl

open ContractDrift.Text (Octets)
open ContractDrift.Xml (Node)

/-! ## Declarations -/

/-- The operations that a description declares, in document order over all its bindings. -/
def declaredOperations (root : Node) : List Node :=
  (root.childrenNamed "binding").flatMap fun binding => binding.childrenNamed "operation"

/-- The elements that a description declares at the top of its schemas, in document order over
all sections of types. -/
def declaredElements (root : Node) : List Node :=
  (root.childrenNamed "types").flatMap fun types =>
    (types.childrenNamed "schema").flatMap fun schema => schema.childrenNamed "element"

/-- The first of some declarations that has a name. -/
def IsFirst (declarations : List Node) (name : String) (d : Node) : Prop :=
  ∃ before after, declarations = before ++ d :: after ∧ d.attr "name" = some name ∧
    ∀ e ∈ before, e.attr "name" ≠ some name

/-- The fields of a message: those of the first element of the wrapper's name, and none if there
is no such element. -/
def IsMessage (root : Node) (wrapper : String) (fields : List Field) : Prop :=
  (∃ e, IsFirst (declaredElements root) wrapper e ∧ fields = fieldsOf e) ∨
    (∀ e ∈ declaredElements root, e.attr "name" ≠ some wrapper) ∧ fields = []

/-- An operation is what a description says of a name: its action is that of the first inner
operation of the first declaration, if one is given there, and its messages are the elements
named after it. -/
structure Describes (root : Node) (name : String) (o : Operation) : Prop where
  name_ne : name ≠ ""
  name_eq : o.name = name
  action_eq : ∃ d, IsFirst (declaredOperations root) name d ∧
    o.action = ((d.child "operation").bind (·.attr "soapAction")).getD ""
  input : IsMessage root (name ++ "Request") o.input
  output : IsMessage root (name ++ "Response") o.output

/-- Declarations that repeat names are added to others, each somewhere behind a declaration of
its name. -/
inductive Repeats (declarations : List Node) : List Node → Prop
  | refl : Repeats declarations declarations
  | again {before after : List Node} {d e : Node} : Repeats declarations (before ++ after) →
      d ∈ before → d.attr "name" = e.attr "name" → Repeats declarations (before ++ e :: after)

/-- The names that are declared, leaving out empty ones. -/
def declaredNames (declarations : List Node) : List String :=
  declarations.filterMap fun d => nonEmptyAttribute? d.attributes "name"

/-- The same declarations in another order, where no name is declared twice. -/
def Rearranged (declarations declarations' : List Node) : Prop :=
  declarations.Perm declarations' ∧ (declaredNames declarations).Nodup

/-! ## Collecting the first of each name -/

/-- The loop that collects declarations by name, from the entries collected so far. -/
def collectFrom {α : Type} (value : String → Node → α) (entries : List (String × α))
    (declarations : List Node) : List (String × α) :=
  declarations.foldl (fun acc d =>
    match nonEmptyAttribute? d.attributes "name" with
    | some name => addFirst acc name (value name d)
    | none => acc) entries

variable {α : Type} {value : String → Node → α} {entries : List (String × α)}
  {declarations declarations' : List Node} {name : String} {d e : Node}

theorem nonEmptyAttribute?_eq_some_iff {attributes : List (String × String)} {key v : String} :
    nonEmptyAttribute? attributes key = some v ↔ v ≠ "" ∧ attributes.lookup key = some v := by
  unfold nonEmptyAttribute?
  split
  · rename_i hempty
    rw [hempty]
    simp only [reduceCtorEq, Option.some.injEq, false_iff, not_and]
    exact fun hne h => hne h.symm
  · rename_i hne
    refine ⟨fun h => ⟨?_, h⟩, fun h => h.2⟩
    rintro rfl
    exact hne h

/-- Whether a declaration counts for a name. -/
def isNamed (name : String) (d : Node) : Bool :=
  nonEmptyAttribute? d.attributes "name" == some name

theorem isNamed_iff : isNamed name d = true ↔ name ≠ "" ∧ d.attr "name" = some name := by
  rw [isNamed, beq_iff_eq, nonEmptyAttribute?_eq_some_iff]
  rfl

theorem lookup_addFirst (entries : List (String × α)) (k : String) (v : α) :
    (addFirst entries k v).lookup name =
      (entries.lookup name).or (if name = k then some v else none) := by
  unfold addFirst
  by_cases hk : name = k
  · subst hk
    cases h : entries.lookup name with
    | some w => simp [h]
    | none => simp [h, List.lookup_append]
  · have hother : ([(k, v)] : List (String × α)).lookup name = none := by
      simp [List.lookup_cons, beq_false_of_ne hk]
    cases h : entries.lookup k with
    | some w => simp [hk]
    | none => simp [hk, List.lookup_append, hother]

/-- Collecting keeps what is there, and of a new name the first declaration. -/
theorem lookup_collectFrom (declarations : List Node) :
    (collectFrom value entries declarations).lookup name =
      (entries.lookup name).or ((declarations.find? (isNamed name)).map (value name)) := by
  -- what is collected already goes before the declarations that are left
  induction declarations generalizing entries with
  | nil => simp [collectFrom]
  | cons d declarations ih =>
    rw [collectFrom, List.foldl_cons, ← collectFrom, ih]
    cases hd : nonEmptyAttribute? d.attributes "name" with
    | none =>
      have hnot : isNamed name d = false := by simp [isNamed, hd]
      rw [List.find?_cons_of_neg (by simp [hnot])]
    | some k =>
      simp only [lookup_addFirst, Option.or_assoc]
      by_cases hk : name = k
      · subst hk
        have hyes : isNamed name d = true := by simp [isNamed, hd]
        rw [List.find?_cons_of_pos hyes]
        simp
      · have hnot : isNamed name d = false := by simp [isNamed, hd, Ne.symm hk]
        rw [List.find?_cons_of_neg (by simp [hnot])]
        simp [hk]

theorem find?_isNamed_eq_some_iff :
    declarations.find? (isNamed name) = some d ↔ name ≠ "" ∧ IsFirst declarations name d := by
  rw [List.find?_eq_some_iff_append]
  constructor
  · rintro ⟨hd, before, after, rfl, hbefore⟩
    obtain ⟨hne, hd⟩ := isNamed_iff.mp hd
    refine ⟨hne, before, after, rfl, hd, fun e he hname => ?_⟩
    have hnot := hbefore e he
    rw [isNamed_iff.mpr ⟨hne, hname⟩] at hnot
    cases hnot
  · rintro ⟨hne, before, after, rfl, hd, hbefore⟩
    refine ⟨isNamed_iff.mpr ⟨hne, hd⟩, before, after, rfl, fun e he => ?_⟩
    rw [Bool.not_eq_true', Bool.eq_false_iff]
    exact fun h => hbefore e he (isNamed_iff.mp h).2

theorem find?_isNamed_eq_none_iff :
    declarations.find? (isNamed name) = none ↔
      name = "" ∨ ∀ d ∈ declarations, d.attr "name" ≠ some name := by
  rw [List.find?_eq_none]
  constructor
  · intro h
    by_cases hname : name = ""
    · exact .inl hname
    · exact .inr fun d hd hattr => h d hd (isNamed_iff.mpr ⟨hname, hattr⟩)
  · rintro (rfl | h) d hd hnamed
    · exact (isNamed_iff.mp hnamed).1 rfl
    · exact h d hd (isNamed_iff.mp hnamed).2

/-! ## Repeated declarations -/

theorem collectFrom_append (before after : List Node) :
    collectFrom value entries (before ++ after) =
      collectFrom value (collectFrom value entries before) after :=
  List.foldl_append

/-- A declaration of a name that has been collected is passed over. -/
theorem collectFrom_cons_of_lookup {k : String} {v : α} (after : List Node)
    (hd : nonEmptyAttribute? d.attributes "name" = some k) (h : entries.lookup k = some v) :
    collectFrom value entries (d :: after) = collectFrom value entries after := by
  rw [collectFrom, List.foldl_cons, hd]
  simp only [addFirst, h, Option.isSome_some, if_true]
  rfl

theorem collectFrom_of_repeats (h : Repeats declarations declarations') :
    collectFrom value entries declarations' = collectFrom value entries declarations := by
  induction h with
  | refl => rfl
  | @again before after d e _ hd hname ih =>
    rw [← ih, collectFrom_append, collectFrom_append]
    have hsame : nonEmptyAttribute? e.attributes "name" =
        nonEmptyAttribute? d.attributes "name" := by
      rw [nonEmptyAttribute?, nonEmptyAttribute?]
      rw [show e.attributes.lookup "name" = d.attributes.lookup "name" from hname.symm]
    cases hkey : nonEmptyAttribute? d.attributes "name" with
    | none =>
      -- a declaration without a name is not collected at all
      rw [collectFrom, List.foldl_cons, hsame, hkey]
      rfl
    | some k =>
      obtain ⟨first, hfirst⟩ : ∃ first, before.find? (isNamed k) = some first := by
        rw [← Option.isSome_iff_exists, List.find?_isSome]
        exact ⟨d, hd, by simp [isNamed, hkey]⟩
      obtain ⟨v, hv⟩ : ∃ v, (collectFrom value entries before).lookup k = some v := by
        rw [lookup_collectFrom, hfirst]
        cases entries.lookup k <;> simp
      exact collectFrom_cons_of_lookup after (hsame.trans hkey) hv

/-! ## Rearranged declarations -/

/-- Of distinct names each is declared at most once. -/
theorem length_filter_isNamed_le (h : (declaredNames declarations).Nodup) (name : String) :
    (declarations.filter (isNamed name)).length ≤ 1 := by
  have hcount : (declarations.filter (isNamed name)).length =
      (declaredNames declarations).count name := by
    rw [← List.countP_eq_length_filter, declaredNames, List.count, List.countP_filterMap]
    refine List.countP_congr fun d _ => ?_
    cases hd : nonEmptyAttribute? d.attributes "name" with
    | none => simp [isNamed, hd]
    | some k => simp [isNamed, hd]
  rw [hcount]
  exact List.nodup_iff_count_le_one.mp h name

theorem find?_isNamed_of_rearranged (h : Rearranged declarations declarations') (name : String) :
    declarations.find? (isNamed name) = declarations'.find? (isNamed name) := by
  obtain ⟨hperm, hnodup⟩ := h
  have hfilter := hperm.filter (isNamed name)
  have hlength := length_filter_isNamed_le hnodup name
  rw [← List.head?_filter, ← List.head?_filter]
  cases hone : declarations.filter (isNamed name) with
  | nil =>
    rw [hone] at hfilter
    rw [List.nil_perm.mp hfilter]
  | cons d rest =>
    rw [hone, List.length_cons] at hlength
    obtain rfl : rest = [] := List.length_eq_zero_iff.mp (by omega)
    rw [hone] at hfilter
    rw [List.singleton_perm.mp hfilter]

/-! ## Models -/

variable {root root' : Node}

theorem elementsOf_eq (root : Node) :
    elementsOf root = collectFrom (fun _ e => e) [] (declaredElements root) := by
  have hpath : (root.findAll ["types", "schema"]).flatMap (·.childrenNamed "element") =
      declaredElements root := by
    simp [declaredElements, Node.findAll, Node.findAllFrom, List.flatMap_assoc]
  rw [elementsOf, hpath]
  rfl

theorem operationsOf_eq (root : Node) (elements : List (String × Node)) :
    operationsOf root elements =
      collectFrom (operationOf elements) [] (declaredOperations root) := by
  have hpath : root.findAll ["binding", "operation"] = declaredOperations root := by
    simp [declaredOperations, Node.findAll, Node.findAllFrom]
  rw [operationsOf, hpath]
  rfl

theorem lookup_elementsOf (root : Node) (name : String) :
    (elementsOf root).lookup name = (declaredElements root).find? (isNamed name) := by
  rw [elementsOf_eq, lookup_collectFrom]
  simp

theorem lookup_operationsOf (root : Node) (elements : List (String × Node)) (name : String) :
    (operationsOf root elements).lookup name =
      ((declaredOperations root).find? (isNamed name)).map (operationOf elements name) := by
  rw [operationsOf_eq, lookup_collectFrom]
  simp

theorem isMessage_iff {wrapper : String} (hne : wrapper ≠ "") {fields : List Field} :
    IsMessage root wrapper fields ↔ fields = messageFields (elementsOf root) wrapper := by
  unfold messageFields
  rw [lookup_elementsOf]
  constructor
  · rintro (⟨e, he, rfl⟩ | ⟨hnone, rfl⟩)
    · rw [find?_isNamed_eq_some_iff.mpr ⟨hne, he⟩]
    · rw [find?_isNamed_eq_none_iff.mpr (.inr hnone)]
  · rintro rfl
    cases hfind : (declaredElements root).find? (isNamed wrapper) with
    | some e => exact .inl ⟨e, (find?_isNamed_eq_some_iff.mp hfind).2, rfl⟩
    | none =>
      rcases find?_isNamed_eq_none_iff.mp hfind with h | h
      · exact absurd h hne
      · exact .inr ⟨h, rfl⟩

theorem wrapperName_ne (name : String) (d : Direction) : wrapperName name d ≠ "" := by
  intro h
  have hlength := congrArg String.length h
  cases d <;> simp [wrapperName, Direction.ending] at hlength

theorem actionOf_eq (d : Node) :
    actionOf d = ((d.child "operation").bind (·.attr "soapAction")).getD "" := by
  unfold actionOf
  cases d.child "operation" <;> rfl

namespace Model

/-- The elements of a model are the first declarations of their names. -/
theorem lookup_elements_eq_some_iff :
    (ofDefinitions root).elements.lookup name = some e ↔
      name ≠ "" ∧ IsFirst (declaredElements root) name e := by
  rw [ofDefinitions, lookup_elementsOf, find?_isNamed_eq_some_iff]

/-- The operations of a model are what its description says of their names. -/
theorem operation?_eq_some_iff {o : Operation} :
    (ofDefinitions root).operation? name = some o ↔ Describes root name o := by
  have hinput := wrapperName_ne name .input
  have houtput := wrapperName_ne name .output
  rw [operation?, ofDefinitions, lookup_operationsOf, Option.map_eq_some_iff]
  constructor
  · rintro ⟨d, hd, rfl⟩
    obtain ⟨hne, hfirst⟩ := find?_isNamed_eq_some_iff.mp hd
    exact ⟨hne, rfl, ⟨d, hfirst, actionOf_eq d⟩, (isMessage_iff hinput).mpr rfl,
      (isMessage_iff houtput).mpr rfl⟩
  · intro h
    obtain ⟨d, hfirst, haction⟩ := h.action_eq
    refine ⟨d, find?_isNamed_eq_some_iff.mpr ⟨h.name_ne, hfirst⟩, ?_⟩
    -- the declaration determines every part of the operation
    obtain ⟨n, action, input, output⟩ := o
    have hn : n = name := h.name_eq
    have hi := (isMessage_iff hinput).mp h.input
    have ho := (isMessage_iff houtput).mp h.output
    simp only at haction hi ho
    rw [operationOf, actionOf_eq, hn, haction, hi, ho]

/-- How the operations of a model are reached: each name stands for one operation, which all
ways of asking for it agree on. -/
structure AccessorsAgree (m : Model) : Prop where
  nodup : m.operationNames.Nodup
  size_eq : m.size = m.operationNames.length
  names_eq : m.allOperations.map (·.name) = m.operationNames
  contains_iff : ∀ name, m.contains name = true ↔ name ∈ m.operationNames
  operation?_iff : ∀ name o, m.operation? name = some o ↔ o ∈ m.allOperations ∧ o.name = name

/-- Two models have the same entries: every name stands for the same operation and the same
element in both. -/
structure SameEntries (m m' : Model) : Prop where
  operation?_eq : ∀ name, m.operation? name = m'.operation? name
  lookup_elements_eq : ∀ name, m.elements.lookup name = m'.elements.lookup name

theorem mem_operationNames_iff (m : Model) (name : String) :
    name ∈ m.operationNames ↔ ∃ o, m.operation? name = some o := by
  rw [operation?, ← Option.isSome_iff_exists, List.lookup_isSome_iff, operationNames,
    List.mem_map]
  constructor
  · rintro ⟨entry, hentry, rfl⟩
    exact ⟨entry, hentry, beq_self_eq_true _⟩
  · rintro ⟨entry, hentry, hname⟩
    exact ⟨entry, hentry, (beq_iff_eq.mp hname).symm⟩

theorem accessorsAgree {m : Model} (h : Operations.WellFormed m.operations) :
    m.AccessorsAgree := by
  refine ⟨h.nodup, ?_, ?_, fun name => ?_, fun name o => ?_⟩
  · rw [size, operationNames, List.length_map]
  · rw [allOperations, operationNames, List.map_map]
    exact List.map_congr_left fun entry hentry => h.name_eq entry hentry
  · rw [contains, Option.isSome_iff_exists, mem_operationNames_iff]
  · constructor
    · intro hlookup
      obtain ⟨before, after, hentries, -⟩ := List.lookup_eq_some_iff.mp hlookup
      have hentry : (name, o) ∈ m.operations := by simp [hentries]
      exact ⟨List.mem_map.mpr ⟨_, hentry, rfl⟩, h.name_eq _ hentry⟩
    · rintro ⟨hmem, rfl⟩
      obtain ⟨entry, hentry, rfl⟩ := List.mem_map.mp hmem
      rw [h.name_eq entry hentry, operation?]
      exact lookup_eq_some h.nodup hentry

/-- The names of a model are those under which an operation is declared. -/
theorem contains_iff :
    (ofDefinitions root).contains name = true ↔
      name ≠ "" ∧ ∃ d ∈ declaredOperations root, d.attr "name" = some name := by
  have hlookup := lookup_operationsOf root (elementsOf root) name
  rw [contains, operation?, ofDefinitions, hlookup, Option.isSome_map, List.find?_isSome]
  simp only [isNamed_iff]
  constructor
  · rintro ⟨d, hd, hne, hattr⟩
    exact ⟨hne, d, hd, hattr⟩
  · rintro ⟨hne, d, hd, hattr⟩
    exact ⟨d, hd, hne, hattr⟩

/-- A declaration of a name that is declared before it changes nothing. -/
theorem ofDefinitions_of_repeats
    (hoperations : Repeats (declaredOperations root) (declaredOperations root'))
    (helements : Repeats (declaredElements root) (declaredElements root')) :
    ofDefinitions root' = ofDefinitions root := by
  have hsame : elementsOf root' = elementsOf root := by
    rw [elementsOf_eq, elementsOf_eq, collectFrom_of_repeats helements]
  rw [ofDefinitions, ofDefinitions, hsame, operationsOf_eq, operationsOf_eq,
    collectFrom_of_repeats hoperations]

/-- Where all names are distinct, the order of the declarations does not matter. -/
theorem sameEntries_of_rearranged
    (hoperations : Rearranged (declaredOperations root) (declaredOperations root'))
    (helements : Rearranged (declaredElements root) (declaredElements root')) :
    SameEntries (ofDefinitions root) (ofDefinitions root') := by
  have hlookup (name : String) :
      (elementsOf root).lookup name = (elementsOf root').lookup name := by
    rw [lookup_elementsOf, lookup_elementsOf, find?_isNamed_of_rearranged helements]
  refine ⟨fun name => ?_, hlookup⟩
  have hvalue : operationOf (elementsOf root) = operationOf (elementsOf root') := by
    funext name d
    simp only [operationOf, messageFields, hlookup]
  rw [operation?, operation?, ofDefinitions, ofDefinitions, lookup_operationsOf,
    lookup_operationsOf, find?_isNamed_of_rearranged hoperations, hvalue]

end Model

/-- What a loaded model contains.  Its names are the non-empty ones under which an operation is
declared, each stands for what the description says of it, and so does each element for its first
declaration; all ways of asking for operations agree.  A document that only repeats declarations,
each behind the first of its name, has the same model, and one that has the same declarations in
other places, no name of which is declared twice, has a model with the same entries. -/
theorem load_declarations {octets : Octets} {m : Model} (h : Model.load octets = .ok m) :
    ∃ root, Node.parse octets = .ok root ∧
      (∀ name, m.contains name = true ↔
        name ≠ "" ∧ ∃ d ∈ declaredOperations root, d.attr "name" = some name) ∧
      (∀ name o, m.operation? name = some o ↔ Describes root name o) ∧
      (∀ name e, m.elements.lookup name = some e ↔
        name ≠ "" ∧ IsFirst (declaredElements root) name e) ∧
      m.AccessorsAgree ∧
      ∀ octets' root', Node.parse octets' = .ok root' → ∃ m', Model.load octets' = .ok m' ∧
        (Repeats (declaredOperations root) (declaredOperations root') →
          Repeats (declaredElements root) (declaredElements root') → m' = m) ∧
        (Rearranged (declaredOperations root) (declaredOperations root') →
          Rearranged (declaredElements root) (declaredElements root') → m.SameEntries m') := by
  obtain ⟨root, hparse, rfl⟩ := Model.load_eq_ok_iff.mp h
  refine ⟨root, hparse, fun name => Model.contains_iff,
    fun name o => Model.operation?_eq_some_iff, fun name e => Model.lookup_elements_eq_some_iff,
    Model.accessorsAgree (wellFormed_operationsOf root _), fun octets' root' hparse' => ?_⟩
  exact ⟨_, Model.load_of_parse hparse', Model.ofDefinitions_of_repeats,
    Model.sameEntries_of_rearranged⟩

/-! ## Three descriptions of the same operations -/

/-- Sections of the three descriptions. -/
def pingTypes : String := "<types><schema><element name='PingRequest'/></schema></types>"

def pingOperation : String :=
  "<operation name='Ping'><operation soapAction='urn:p'/></operation>"

def pongOperation : String := "<operation name='Pong'/>"

/-- A description with one operation in each of two bindings. -/
def pingPong : Octets :=
  ["<definitions>", pingTypes, "<binding>", pingOperation, "</binding><binding>", pongOperation,
    "</binding></definitions>"].flatMap Text.utf8

/-- The same declarations, with both operations in one binding in front of the types. -/
def pongPing : Octets :=
  ["<definitions><binding>", pongOperation, pingOperation, "</binding>", pingTypes,
    "</definitions>"].flatMap Text.utf8

/-- The first description with another declaration of an operation and of an element. -/
def pingPongPing : Octets :=
  ["<definitions>", pingTypes, "<binding>", pingOperation, "</binding><binding>", pongOperation,
    "<operation name='Ping'/></binding><types><schema>",
    "<element name='PingRequest' type='string'/></schema></types></definitions>"].flatMap Text.utf8

/-- The declarations of the three descriptions. -/
def ping : Node :=
  .mk "operation" [("name", "Ping")] [.mk "operation" [("soapAction", "urn:p")] [] ""] ""

def pingAgain : Node := .mk "operation" [("name", "Ping")] [] ""

def pong : Node := .mk "operation" [("name", "Pong")] [] ""

def pingRequest : Node := .mk "element" [("name", "PingRequest")] [] ""

def pingRequestAgain : Node :=
  .mk "element" [("name", "PingRequest"), ("type", "string")] [] ""

/-- A description of given sections. -/
def description (sections : List Node) : Node := .mk "definitions" [] sections ""

def bindingOf (operations : List Node) : Node := .mk "binding" [] operations ""

def typesOf (elements : List Node) : Node := .mk "types" [] [.mk "schema" [] elements ""] ""

set_option maxRecDepth 4000 in
theorem parse_pingPong : Node.parse pingPong =
    .ok (description [typesOf [pingRequest], bindingOf [ping], bindingOf [pong]]) := by
  simp only [pingPong, pingTypes, pingOperation, pongOperation, List.flatMap_cons]
  repeat rw [Text.utf8_ofList]
  decide +kernel

set_option maxRecDepth 4000 in
theorem parse_pongPing : Node.parse pongPing =
    .ok (description [bindingOf [pong, ping], typesOf [pingRequest]]) := by
  simp only [pongPing, pingTypes, pingOperation, pongOperation, List.flatMap_cons]
  repeat rw [Text.utf8_ofList]
  decide +kernel

set_option maxRecDepth 4000 in
theorem parse_pingPongPing : Node.parse pingPongPing =
    .ok (description [typesOf [pingRequest], bindingOf [ping], bindingOf [pong, pingAgain],
      typesOf [pingRequestAgain]]) := by
  simp only [pingPongPing, pingTypes, pingOperation, pongOperation, List.flatMap_cons]
  repeat rw [Text.utf8_ofList]
  decide +kernel

theorem load_declarations_pingPong :
    ∃ m, Model.load pingPong = .ok m ∧ m.operationNames = ["Ping", "Pong"] ∧
      Model.load pingPongPing = .ok m ∧
      ∃ m', Model.load pongPing = .ok m' ∧ m'.operationNames = ["Pong", "Ping"] ∧
        m.SameEntries m' := by
  have hload := Model.load_of_parse parse_pingPong
  obtain ⟨root, hparse, -, -, -, -, hothers⟩ := load_declarations hload
  obtain rfl := Except.ok.inj (parse_pingPong.symm.trans hparse)
  obtain ⟨m', hload', -, hmoves⟩ := hothers _ _ parse_pongPing
  obtain ⟨m'', hload'', hrepeats, -⟩ := hothers _ _ parse_pingPongPing
  have hoperations : Repeats [ping, pong] ([ping, pong] ++ [pingAgain]) :=
    .again (by simpa using .refl) (d := ping) (by simp) rfl
  have helements : Repeats [pingRequest] ([pingRequest] ++ [pingRequestAgain]) :=
    .again (by simpa using .refl) (d := pingRequest) (by simp) rfl
  have hnames : Rearranged [ping, pong] [pong, ping] := ⟨.swap _ _ _, by decide⟩
  have hname : Rearranged [pingRequest] [pingRequest] := ⟨.refl _, by decide⟩
  obtain rfl := hrepeats hoperations helements
  refine ⟨_, hload, rfl, hload'', m', hload', ?_, hmoves hnames hname⟩
  obtain rfl := Except.ok.inj ((Model.load_of_parse parse_pongPing).symm.trans hload')
  rfl

end ContractDrift.Wsdl
