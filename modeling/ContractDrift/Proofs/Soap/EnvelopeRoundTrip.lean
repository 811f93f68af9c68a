/-
Parsing undoes building.

An envelope is built from any values, and the tree that it is read into holds what the
values say about the fields of the message, and nothing else.  `parse_buildIn` is this law
for all texts that a document may hold; `parse_build` is the case without carriage returns,
where a text only loses the blanks at its ends.
-/
import ContractDrift.Proofs.Outcome
import ContractDrift.Proofs.Soap.Content
import ContractDrift.Proofs.Soap.Prefixes

namespace ContractDrift.Soap

open ContractDrift.Json (Value Members)
open ContractDrift.Wsdl (Direction Field Operation wrapperName)
open ContractDrift.Xml (Element Node NameClass Scope isXmlText)

variable {o : Operation} {d : Direction} {values : Members} {uri : String}

/-- What an operation's message says: its wrapper around the content of its fields. -/
def Content.ofMessage (o : Operation) (d : Direction) (values : Members) : Content :=
  .group (wrapperName o.name d) (Content.ofFields (o.fieldsFor d) values)

/-- The tree of an envelope around a message. -/
def envelopeNode (message : Node) : Node :=
  .mk "Envelope" [] [.mk "Body" [] [message] ""] ""

theorem envelopeTree_eq (o : Operation) (d : Direction) (values : Members) (uri : String) :
    envelopeTree o d values uri = branch (qualified envelopeNamespace "Envelope")
      [branch (qualified envelopeNamespace "Body")
        [(Content.ofMessage o d values).toElement uri]] := by
  rw [envelopeTree, Content.renderFields_eq]
  rfl

theorem names_envelopeTree (o : Operation) (d : Direction) (values : Members) (uri : String) :
    (envelopeTree o d values uri).names =
      [qualified envelopeNamespace "Envelope", qualified envelopeNamespace "Body"] ++
        (Content.ofMessage o d values).names.map (qualified uri) := by
  rw [envelopeTree_eq, ← Content.names_toElement]
  simp [branch, Element.names, Element.allNames]

theorem collectPrefixes_envelopeTree
    (hnames : ∀ n ∈ (Content.ofMessage o d values).names, NameClass.plain.isName n.toList = true)
    (uri : String) :
    Xml.collectPrefixes knownPrefixes [] (envelopeTree o d values uri) = .ok (prefixesFor uri) := by
  rw [Xml.collectPrefixes_eq_foldlM, names_envelopeTree, List.foldlM_append]
  -- the names of the envelope itself come first, then those of the message
  have hown : List.foldlM (Xml.usePrefix knownPrefixes) []
      [qualified envelopeNamespace "Envelope", qualified envelopeNamespace "Body"] =
        .ok [(envelopeNamespace, "soap")] := by decide +kernel
  rw [hown, Content.ofMessage, Content.names, List.map_cons]
  rw [Content.ofMessage, Content.names, List.forall_mem_cons] at hnames
  show List.foldlM _ _ _ = _
  rw [List.foldlM_cons, usePrefix_message hnames.1]
  exact foldlM_usePrefix hnames.2 uri

/-- An envelope whose message is in a namespace can be written, whatever names its fields have. -/
theorem exists_buildIn (o : Operation) (d : Direction) (values : Members) (huri : uri ≠ "") :
    ∃ text, buildIn o d values uri = .ok text := by
  have hnames : ∀ n ∈ (envelopeTree o d values uri).names,
      ∃ parts, Xml.splitExpanded n = .ok parts := by
    intro n hn
    rw [names_envelopeTree, List.mem_append, List.mem_map] at hn
    rcases hn with hn | ⟨m, _, rfl⟩
    · rcases List.mem_pair.mp hn with rfl | rfl
      · exact exists_splitExpanded (by decide) _
      · exact exists_splitExpanded (by decide) _
    · exact exists_splitExpanded huri m
  obtain ⟨used, hused⟩ := exists_foldlM_usePrefix knownPrefixes hnames []
  rw [← Xml.collectPrefixes_eq_foldlM] at hused
  exact ⟨_, bind_eq_ok_iff.mpr ⟨used, hused, rfl⟩⟩

theorem texts_envelopeTree : ∀ t ∈ (envelopeTree o d values uri).texts,
    t = "" ∨ t ∈ (Content.ofMessage o d values).texts := by
  intro t ht
  rw [envelopeTree_eq] at ht
  simp only [branch, Element.texts, Element.allTexts, List.append_nil, List.mem_cons] at ht
  rcases ht with rfl | rfl | ht
  · exact Or.inl rfl
  · exact Or.inl rfl
  · exact Content.texts_toElement uri _ t ht

theorem ofElement_envelopeTree
    (hnames : ∀ n ∈ (Content.ofMessage o d values).names, NameClass.plain.isName n.toList = true)
    (huri : '\x7d' ∉ uri.toList) :
    Node.ofElement ((envelopeTree o d values uri).laidOut 0) =
      envelopeNode ((Content.ofMessage o d values).toNode Content.readBack) := by
  have hmessage := Content.ofElement_toElement uri (Content.ofMessage o d values) 2
    fun n hn => plainName_qualified (hnames n hn) huri
  have hown (n : String) (hn : NameClass.plain.isName n.toList = true) :
      Xml.plainName (qualified envelopeNamespace n) = n := plainName_qualified hn (by decide)
  rw [envelopeTree_eq]
  simp only [branch, Element.laidOut, Element.allLaidOut, Node.ofElement, Node.ofElements,
    hmessage, hown "Envelope" (by decide), hown "Body" (by decide), Content.trim_lineStart]
  rfl

/-- An envelope is built from any values, and parsing it gives back what they say, also where
blanks follow it. -/
theorem parse_buildIn_append
    (hnames : ∀ n ∈ (Content.ofMessage o d values).names, NameClass.plain.isName n.toList = true)
    (htexts : ∀ t ∈ (Content.ofMessage o d values).texts, isXmlText t.toList = true)
    (huri : Declarable uri) :
    ∃ text, buildIn o d values uri = .ok text ∧
      ∀ blanks : String, (∀ c ∈ blanks.toList, Xml.isSpace c = true) →
        Node.parse (Text.utf8 (text ++ blanks)) =
          .ok (envelopeNode ((Content.ofMessage o d values).toNode Content.readBack)) := by
  have hread : ∀ s : Scope, s.Binds (prefixesFor uri) →
      ∀ n ∈ (envelopeTree o d values uri).names,
        s.Reads (Xml.prefixedName knownPrefixes (prefixesFor uri)) n := by
    intro s hs n hn
    rw [names_envelopeTree] at hn
    rcases List.mem_append.mp hn with hn | hn
    · rcases List.mem_pair.mp hn with rfl | rfl
      · exact reads_envelope hs (by decide)
      · exact reads_envelope hs (by decide)
    · obtain ⟨m, hm, rfl⟩ := List.mem_map.mp hn
      exact reads_message hs (hnames m hm)
  have hxml : ∀ t ∈ (envelopeTree o d values uri).texts, isXmlText t.toList = true := by
    intro t ht
    rcases texts_envelopeTree t ht with rfl | ht
    · rfl
    · exact htexts t ht
  have hroot : (envelopeTree o d values uri).text ≠ "" ∨
      (envelopeTree o d values uri).children ≠ [] := Or.inr (List.cons_ne_nil _ _)
  obtain ⟨body, hbuild, hdocument⟩ := Xml.Document.read_render hroot
    (collectPrefixes_envelopeTree hnames uri) (fun u hu => (valid_prefixesFor huri u hu).1)
    (fun u hu => (valid_prefixesFor huri u hu).2) (nodup_prefixesFor uri) hread hxml
  refine ⟨_, hbuild, fun blanks hblanks => ?_⟩
  -- the header is not blank, so there is a document
  have hblank : (Text.utf8 (Xml.documentHeader ++ body ++ blanks)).all Text.isBlankOctet =
      false := by
    rw [Text.utf8, String.append_assoc, String.toList_append, Text.utf8Chars_append,
      List.all_append,
      show (Text.utf8Chars Xml.documentHeader.toList).all Text.isBlankOctet = false by decide]
    rfl
  rw [Node.parse, hblank, if_neg Bool.false_ne_true, hdocument blanks hblanks]
  simp only [ofElement_envelopeTree hnames huri.brace_not_mem]

/-- An envelope is built from any values, and parsing it gives back what they say. -/
theorem parse_buildIn
    (hnames : ∀ n ∈ (Content.ofMessage o d values).names, NameClass.plain.isName n.toList = true)
    (htexts : ∀ t ∈ (Content.ofMessage o d values).texts, isXmlText t.toList = true)
    (huri : Declarable uri) :
    ∃ text, buildIn o d values uri = .ok text ∧
      Node.parse (Text.utf8 text) =
        .ok (envelopeNode ((Content.ofMessage o d values).toNode Content.readBack)) := by
  obtain ⟨text, hbuild, hparse⟩ := parse_buildIn_append hnames htexts huri
  have hnone := hparse "" (by simp)
  rw [String.append_empty] at hnone
  exact ⟨text, hbuild, hnone⟩

theorem isName_wrapperName {name : String} (h : NameClass.plain.isName name.toList = true)
    (d : Direction) : NameClass.plain.isName (wrapperName name d).toList = true := by
  have hending : d.ending.toList.all NameClass.plain.continues = true := by cases d <;> decide
  rw [wrapperName, String.toList_append]
  exact NameClass.isName_append h (List.all_eq_true.mp hending)

/-- The names of a message are those of its wrapper and its fields. -/
theorem isName_ofMessage (hoperation : NameClass.plain.isName o.name.toList = true)
    (hnames : ∀ n ∈ Content.allNames (Content.ofFields (o.fieldsFor d) values),
      NameClass.plain.isName n.toList = true) :
    ∀ n ∈ (Content.ofMessage o d values).names, NameClass.plain.isName n.toList = true := by
  intro n hn
  rw [Content.ofMessage, Content.names] at hn
  rcases List.mem_cons.mp hn with rfl | hn
  · exact isName_wrapperName hoperation d
  · exact hnames n hn

theorem readBack_eq_trim {text : String} (h : '\r' ∉ text.toList) :
    Content.readBack text = Text.trim text := by
  rw [Content.readBack, Xml.unifyEnds_of_not_mem h, String.ofList_toList]

/-- Parsing undoes building: the tree of a built envelope holds the wrapper of the operation,
and in it what the values say about the fields. -/
theorem parse_build {direction : Value} (values : Members) (uri : String)
    (hd : Direction.ofValue direction = .ok d)
    (hoperation : NameClass.plain.isName o.name.toList = true)
    (hnames : ∀ n ∈ Content.allNames (Content.ofFields (o.fieldsFor d) values),
      NameClass.plain.isName n.toList = true)
    (htexts : ∀ t ∈ Content.allTexts (Content.ofFields (o.fieldsFor d) values),
      isXmlText t.toList = true ∧ '\r' ∉ t.toList)
    (huri : Declarable uri) :
    ∃ text, build o direction values uri = .ok text ∧
      Node.parse (Text.utf8 text) = .ok (envelopeNode (.mk (wrapperName o.name d) []
        (Content.toNodes Text.trim (Content.ofFields (o.fieldsFor d) values)) "")) := by
  obtain ⟨text, hbuild, hparse⟩ := parse_buildIn (isName_ofMessage hoperation hnames)
    (fun t ht => (htexts t ht).1) huri
  refine ⟨text, ?_, ?_⟩
  · simp only [build, hd, hbuild]
  -- without carriage returns the text that is read back is the trimmed one
  · rw [hparse, Content.ofMessage, Content.toNode,
      Content.toNodes_congr _ fun t ht => readBack_eq_trim (htexts t ht).2]

/-- An operation that takes an order. -/
def placeOrder : Operation :=
  ⟨"PlaceOrder", "",
    [.mk "customer" "string" true none,
      .mk "line" "" true (some [.mk "sku" "string" true none, .mk "count" "int" false none]),
      .mk "note" "string" false none, .mk "total" "" true none], []⟩

/-- Two lines of an order, one of them null, an optional note that is null, a total with an
object for a value, and a customer that is missing. -/
def placeOrderValues : Members :=
  [("line", .array [.object [("sku", .text " a<b "), ("count", .bool true)], .null]),
    ("note", .null), ("total", .object [("sum", .text "1")]), ("more", .text "x")]

theorem parse_build_placeOrder :
    ∃ text, build placeOrder (.text "input") placeOrderValues defaultNamespace = .ok text ∧
      Node.parse (Text.utf8 text) = .ok (.mk "Envelope" [] [.mk "Body" [] [
        .mk "PlaceOrderRequest" [] [
          .mk "customer" [] [] "?",
          .mk "line" [] [.mk "sku" [] [] "a<b", .mk "count" [] [] "true"] "",
          .mk "line" [] [.mk "sku" [] [] "?"] "",
          .mk "total" [] [.mk "sum" [] [] "1"] ""] ""] ""] "") := by
  have hdirection : Direction.ofValue (.text "input") = .ok .input := rfl
  have hnames : ∀ n ∈ Content.allNames (Content.ofFields (placeOrder.fieldsFor .input)
      placeOrderValues), NameClass.plain.isName n.toList = true := by decide +kernel
  have htexts : ∀ t ∈ Content.allTexts (Content.ofFields (placeOrder.fieldsFor .input)
      placeOrderValues), isXmlText t.toList = true ∧ '\r' ∉ t.toList := by decide +kernel
  exact parse_build placeOrderValues defaultNamespace hdirection (by decide) hnames htexts
    ⟨by decide, by decide, by decide⟩

end ContractDrift.Soap
