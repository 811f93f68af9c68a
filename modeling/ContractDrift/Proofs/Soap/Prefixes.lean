/-
The prefixes of an envelope.

An envelope uses at most two namespaces, its own and that of its message; `prefixesFor`
gives their prefixes.  The namespace of the message can be any that a document is able to
declare (`Declarable`): the default one, one with a well-known prefix or a new one, that of
the envelope, the reserved one that needs no declaration, or none.

* `usePrefix_message`, `usePrefix_prefixesFor` — the writer comes to these prefixes;
* `reads_envelope`, `reads_message` — names written with them are read as they were meant;
* `valid_prefixesFor` — their declarations are taken in by the reader.
-/
import ContractDrift.Proofs.Text.Split
import ContractDrift.Proofs.Xml.RenderedDocument
import ContractDrift.Proofs.Xml.SameTree
import ContractDrift.Soap.Envelope

namespace ContractDrift.Soap

open ContractDrift.Xml (NameClass Scope isXmlText)

variable {uri n : String}

/-! ## Names in a namespace -/

theorem toList_qualified (huri : uri ≠ "") (n : String) :
    (qualified uri n).toList = '\x7b' :: (uri.toList ++ '\x7d' :: n.toList) := by
  simp [qualified, if_neg huri, Text.braced]

theorem not_mem_isName {c : Char} (hc : NameClass.plain.continues c = false) {n : List Char}
    (h : NameClass.plain.isName n = true) : c ∉ n := by
  intro hmem
  have := NameClass.continues_of_mem_isName h hmem
  rw [hc] at this
  exact absurd this Bool.false_ne_true

theorem splitExpanded_qualified (hn : NameClass.plain.isName n.toList = true) (uri : String) :
    Xml.splitExpanded (qualified uri n) = .ok (if uri = "" then none else some uri, n) := by
  by_cases huri : uri = ""
  · obtain ⟨c, cs, hcs, hc, -⟩ := NameClass.isName_iff.mp hn
    have hne : c ≠ '\x7b' := NameClass.ne_of_starts hc (by decide)
    rw [qualified, if_pos huri, if_pos huri, Xml.splitExpanded, hcs]
    split
    · rename_i h
      exact absurd (List.cons.inj h).1 hne
    · rfl
  · rw [Xml.splitExpanded, toList_qualified huri]
    have hbrace : '\x7d' ∉ n.toList := not_mem_isName (by decide) hn
    simp only [Text.splitLast_append uri.toList hbrace]
    simp [huri]

/-- A name in a namespace has parts, whatever the name. -/
theorem exists_splitExpanded (huri : uri ≠ "") (n : String) :
    ∃ parts, Xml.splitExpanded (qualified uri n) = .ok parts := by
  have hclosed : '\x7d' ∈ uri.toList ++ '\x7d' :: n.toList :=
    List.mem_append_right _ List.mem_cons_self
  obtain ⟨⟨u, l⟩, hparts⟩ := Text.exists_splitLast hclosed
  exact ⟨(some (String.ofList u), String.ofList l), by
    rw [Xml.splitExpanded, toList_qualified huri]
    simp only [hparts]⟩

theorem plainName_qualified (hn : NameClass.plain.isName n.toList = true)
    (huri : '\x7d' ∉ uri.toList) : Xml.plainName (qualified uri n) = n := by
  have hcolon := NameClass.colon_not_mem_isName hn
  by_cases he : uri = ""
  · rw [qualified, if_pos he]
    exact Xml.plainName_bare (not_mem_isName (by decide) hn) hcolon
  · rw [Xml.plainName_braced (toList_qualified he n) huri hcolon]
    exact String.ofList_toList

/-! ## Prefixes -/

/-- A namespace that a document can declare; the empty one needs no declaration. -/
structure Declarable (uri : String) : Prop where
  isXmlText : isXmlText uri.toList = true
  brace_not_mem : '\x7d' ∉ uri.toList
  ne_reserved : uri.toList ≠ Xml.xmlnsNamespace

/-- The prefixes that are known when an envelope is written. -/
def knownPrefixes : Xml.Prefixes := envelopePrefixes ++ Xml.wellKnownPrefixes

/-- The prefix of the namespace of a message. -/
def messagePrefix (uri : String) : String :=
  Xml.choosePrefix knownPrefixes [(envelopeNamespace, "soap")] uri

/-- The prefixes in use in an envelope whose message is in a namespace. -/
def prefixesFor (uri : String) : Xml.Prefixes :=
  if uri = "" ∨ uri = envelopeNamespace ∨ messagePrefix uri = "xml" then
    [(envelopeNamespace, "soap")]
  else [(envelopeNamespace, "soap"), (uri, messagePrefix uri)]

theorem messagePrefix_cases (huri : uri ≠ envelopeNamespace) :
    (uri, messagePrefix uri) ∈ knownPrefixes ∨
      messagePrefix uri = "ns1" ∧ knownPrefixes.lookup uri = none := by
  have hused : List.lookup uri [(envelopeNamespace, "soap")] = none := by
    have hne : (uri == envelopeNamespace) = false := beq_false_of_ne huri
    simp [List.lookup_cons, hne]
  rw [messagePrefix, Xml.choosePrefix, hused]
  cases h : knownPrefixes.lookup uri with
  | none => exact Or.inr ⟨by decide, rfl⟩
  | some p =>
    left
    obtain ⟨l, r, hl, -⟩ := List.lookup_eq_some_iff.mp h
    simp [hl]

/-- What the known prefixes are: names, each of one namespace. -/
theorem knownPrefixes_facts : ∀ u ∈ knownPrefixes,
    NameClass.plain.isName u.2.toList = true ∧ u.2 ≠ "xmlns" ∧
      (u.2 = "soap" → u.1 = envelopeNamespace) ∧ (u.2 = "xml" → u.1.toList = Xml.xmlNamespace) := by
  decide +kernel

theorem isName_messagePrefix (huri : uri ≠ envelopeNamespace) :
    NameClass.plain.isName (messagePrefix uri).toList = true ∧ messagePrefix uri ≠ "xmlns" ∧
      messagePrefix uri ≠ "soap" := by
  rcases messagePrefix_cases huri with h | ⟨h, -⟩
  · obtain ⟨hname, hne, hsoap, -⟩ := knownPrefixes_facts _ h
    exact ⟨hname, hne, fun he => huri (hsoap he)⟩
  · rw [h]
    decide

/-- The namespace of the prefix `xml` has this prefix, and no other has it. -/
theorem messagePrefix_eq_xml (huri : uri ≠ envelopeNamespace) :
    messagePrefix uri = "xml" ↔ uri.toList = Xml.xmlNamespace := by
  constructor
  · intro h
    rcases messagePrefix_cases huri with hmem | ⟨hnew, -⟩
    · exact (knownPrefixes_facts _ hmem).2.2.2 h
    · rw [h] at hnew
      exact absurd hnew (by decide)
  · intro h
    obtain rfl : uri = "http://www.w3.org/XML/1998/namespace" := String.toList_inj.mp h
    decide +kernel

theorem choosePrefix_prefixesFor (uri : String) :
    Xml.choosePrefix knownPrefixes (prefixesFor uri) uri = messagePrefix uri := by
  unfold prefixesFor
  split
  · rfl
  · rename_i h
    have hne : (uri == envelopeNamespace) = false :=
      beq_false_of_ne fun he => h (Or.inr (Or.inl he))
    rw [Xml.choosePrefix]
    simp [List.lookup_cons, hne]

theorem choosePrefix_envelope (uri : String) :
    Xml.choosePrefix knownPrefixes (prefixesFor uri) envelopeNamespace = "soap" := by
  unfold prefixesFor
  split <;> simp [Xml.choosePrefix]

theorem usePrefix_qualified (used : Xml.Prefixes) (huri : uri ≠ "")
    (hn : NameClass.plain.isName n.toList = true) :
    Xml.usePrefix knownPrefixes used (qualified uri n) =
      .ok (if (used.lookup uri).isSome ∨ Xml.choosePrefix knownPrefixes used uri = "xml" then used
        else used ++ [(uri, Xml.choosePrefix knownPrefixes used uri)]) := by
  simp only [Xml.usePrefix, splitExpanded_qualified hn, if_neg huri, bind, Except.bind, pure,
    Except.pure, Bool.or_eq_true, beq_iff_eq]
  split <;> rfl

theorem lookup_prefixesFor_envelope (uri : String) :
    (prefixesFor uri).lookup envelopeNamespace = some "soap" := by
  unfold prefixesFor
  split <;> simp

/-- A name of the message adds the prefix of its namespace, unless that is in use. -/
theorem usePrefix_message (hn : NameClass.plain.isName n.toList = true) (uri : String) :
    Xml.usePrefix knownPrefixes [(envelopeNamespace, "soap")] (qualified uri n) =
      .ok (prefixesFor uri) := by
  by_cases huri : uri = ""
  · simp only [Xml.usePrefix, splitExpanded_qualified hn, if_pos huri, bind, Except.bind]
    rw [prefixesFor, if_pos (Or.inl huri)]
    rfl
  · rw [usePrefix_qualified _ huri hn, ← messagePrefix, prefixesFor]
    by_cases henv : uri = envelopeNamespace
    · subst henv
      rfl
    · have hne : (uri == envelopeNamespace) = false := beq_false_of_ne henv
      by_cases hxml : messagePrefix uri = "xml" <;> simp [List.lookup_cons, hne, huri, henv, hxml]

/-- After that the names of the message add nothing. -/
theorem usePrefix_prefixesFor (hn : NameClass.plain.isName n.toList = true) (uri : String) :
    Xml.usePrefix knownPrefixes (prefixesFor uri) (qualified uri n) = .ok (prefixesFor uri) := by
  by_cases huri : uri = ""
  · simp only [Xml.usePrefix, splitExpanded_qualified hn, if_pos huri, bind, Except.bind]
    rfl
  · have hused : ((prefixesFor uri).lookup uri).isSome ∨ messagePrefix uri = "xml" := by
      by_cases hxml : messagePrefix uri = "xml"
      · exact Or.inr hxml
      · left
        by_cases henv : uri = envelopeNamespace
        · rw [henv, lookup_prefixesFor_envelope]
          rfl
        · have hne : (uri == envelopeNamespace) = false := beq_false_of_ne henv
          simp [prefixesFor, huri, henv, hxml, List.lookup_cons, hne]
    rw [usePrefix_qualified _ huri hn, choosePrefix_prefixesFor, if_pos hused]

theorem foldlM_usePrefix {names : List String}
    (hnames : ∀ n ∈ names, NameClass.plain.isName n.toList = true) (uri : String) :
    (names.map (qualified uri)).foldlM (Xml.usePrefix knownPrefixes) (prefixesFor uri) =
      .ok (prefixesFor uri) := by
  induction names with
  | nil => rfl
  | cons n names ih =>
    rw [List.map_cons, List.foldlM_cons, usePrefix_prefixesFor (hnames n List.mem_cons_self)]
    exact ih fun m hm => hnames m (List.mem_cons_of_mem n hm)

/-- Names that have parts can be used. -/
theorem exists_foldlM_usePrefix (known : Xml.Prefixes) {names : List String}
    (h : ∀ n ∈ names, ∃ parts, Xml.splitExpanded n = .ok parts) (used : Xml.Prefixes) :
    ∃ used', names.foldlM (Xml.usePrefix known) used = .ok used' := by
  induction names generalizing used with
  | nil => exact ⟨used, rfl⟩
  | cons n names ih =>
    obtain ⟨parts, hparts⟩ := h n List.mem_cons_self
    -- a prefix is refused only for a name without parts
    have hstep : ∃ next, Xml.usePrefix known used n = .ok next := by
      simp only [Xml.usePrefix, hparts, bind, Except.bind]
      split
      · exact ⟨used, rfl⟩
      · split
        · exact ⟨used, rfl⟩
        · exact ⟨_, rfl⟩
    obtain ⟨next, hnext⟩ := hstep
    obtain ⟨used', hused'⟩ := ih (fun m hm => h m (List.mem_cons_of_mem n hm)) next
    exact ⟨used', by rw [List.foldlM_cons, hnext]; exact hused'⟩

/-! ## Written names -/

theorem prefixedName_qualified (used : Xml.Prefixes) (huri : uri ≠ "")
    (hn : NameClass.plain.isName n.toList = true) :
    Xml.prefixedName knownPrefixes used (qualified uri n) =
      Xml.choosePrefix knownPrefixes used uri ++ ":" ++ n := by
  simp only [Xml.prefixedName, splitExpanded_qualified hn, if_neg huri]

/-- A name is read through the prefix of its namespace. -/
theorem reads_prefixed {s : Scope} {used : Xml.Prefixes} (huri : uri ≠ "")
    (hn : NameClass.plain.isName n.toList = true)
    (hp : NameClass.plain.isName (Xml.choosePrefix knownPrefixes used uri).toList = true)
    (hs : s.find? (Xml.choosePrefix knownPrefixes used uri).toList = some uri.toList) :
    s.Reads (Xml.prefixedName knownPrefixes used) (qualified uri n) := by
  have hwritten : (Xml.prefixedName knownPrefixes used (qualified uri n)).toList =
      (Xml.choosePrefix knownPrefixes used uri).toList ++ ':' :: n.toList := by
    rw [prefixedName_qualified used huri hn]
    simp
  -- the name is written with its prefix, and the scope leads from there back to the namespace
  refine ⟨?_, ?_⟩
  · rw [hwritten]
    exact .prefixed hp hn
  · rw [hwritten, Scope.expandElement?, Xml.Qualified.of,
      Text.splitFirst_append (NameClass.colon_not_mem_isName hp)]
    simp only [hs]
    rw [Scope.expanded, List.cons_append, ← toList_qualified huri, String.ofList_toList]

theorem reads_plain {s : Scope} {nameOf : String → String} (hname : nameOf n = n)
    (hn : NameClass.plain.isName n.toList = true) (hs : s.find? [] = none) :
    s.Reads nameOf n := by
  refine ⟨?_, ?_⟩
  · rw [hname]
    exact .plain hn
  · rw [hname, Scope.expandElement?, Xml.Qualified.of,
      Text.splitFirst_eq_none (NameClass.colon_not_mem_isName hn)]
    simp only [hs]
    rw [String.ofList_toList]
    rfl

theorem mem_prefixesFor_envelope (uri : String) :
    (envelopeNamespace, "soap") ∈ prefixesFor uri := by
  unfold prefixesFor
  split <;> exact List.mem_cons_self

theorem reads_envelope {s : Scope} (hs : s.Binds (prefixesFor uri))
    (hn : NameClass.plain.isName n.toList = true) :
    s.Reads (Xml.prefixedName knownPrefixes (prefixesFor uri)) (qualified envelopeNamespace n) := by
  have hpfx := choosePrefix_envelope uri
  refine reads_prefixed (by decide) hn ?_ ?_
  · rw [hpfx]
    decide
  · rw [hpfx]
    exact hs.find?_used _ (mem_prefixesFor_envelope uri)

theorem reads_message {s : Scope} (hs : s.Binds (prefixesFor uri))
    (hn : NameClass.plain.isName n.toList = true) :
    s.Reads (Xml.prefixedName knownPrefixes (prefixesFor uri)) (qualified uri n) := by
  by_cases huri : uri = ""
  · have hname : Xml.prefixedName knownPrefixes (prefixesFor uri) n = n := by
      have := splitExpanded_qualified hn ""
      rw [qualified, if_pos rfl, if_pos rfl] at this
      rw [Xml.prefixedName, this]
    rw [qualified, if_pos huri]
    refine reads_plain hname hn ?_
    rw [hs.find?_other _ (by rw [prefixesFor, if_pos (Or.inl huri)]; decide)]
    rfl
  by_cases henv : uri = envelopeNamespace
  · have henvelope := reads_envelope hs hn
    rwa [← henv] at henvelope
  -- the prefix is bound by the root, unless it is the one that needs no declaration
  have hpfx := choosePrefix_prefixesFor uri
  refine reads_prefixed huri hn ?_ ?_
  · rw [hpfx]
    exact (isName_messagePrefix henv).1
  · rw [hpfx]
    by_cases hxml : messagePrefix uri = "xml"
    · rw [hxml, hs.find?_other _ (by rw [prefixesFor, if_pos (Or.inr (Or.inr hxml))]; decide),
        (messagePrefix_eq_xml henv).mp hxml]
      rfl
    · refine hs.find?_used (uri, messagePrefix uri) ?_
      rw [prefixesFor, if_neg (by simp [huri, henv, hxml])]
      exact List.mem_cons_of_mem _ List.mem_cons_self

/-! ## Declarations -/

theorem valid_prefixesFor (huri : Declarable uri) :
    ∀ u ∈ prefixesFor uri, (Xml.Declared.ofPrefix u).Valid ∧ isXmlText u.1.toList = true := by
  have hsoap : (Xml.Declared.ofPrefix (envelopeNamespace, "soap")).Valid ∧
      isXmlText envelopeNamespace.toList = true := by
    refine ⟨⟨?_, ?_, ?_, ?_, ?_, ?_, ?_⟩, ?_⟩ <;> decide +kernel
  intro u hu
  -- besides that of the envelope only a namespace that is not bound already is declared
  unfold prefixesFor at hu
  split at hu
  · obtain rfl := List.mem_singleton.mp hu
    exact hsoap
  · rename_i h
    simp only [not_or] at h
    obtain ⟨hne, henv, hxml⟩ := h
    rcases List.mem_cons.mp hu with rfl | hu
    · exact hsoap
    · obtain rfl := List.mem_singleton.mp hu
      obtain ⟨hname, hxmlns, -⟩ := isName_messagePrefix henv
      refine ⟨⟨hname, ?_, ?_, ?_, huri.brace_not_mem, ?_, huri.ne_reserved⟩, huri.isXmlText⟩
      · exact fun h => hxml (String.toList_inj.mp h)
      · exact fun h => hxmlns (String.toList_inj.mp h)
      · exact fun h => hne (String.toList_inj.mp h)
      · exact fun h => hxml ((messagePrefix_eq_xml henv).mpr h)

theorem nodup_prefixesFor (uri : String) : ((prefixesFor uri).map (·.2)).Nodup := by
  unfold prefixesFor
  split
  · exact List.nodup_singleton _
  · rename_i h
    simp only [not_or] at h
    have := (isName_messagePrefix h.2.1).2.2
    simpa using Ne.symm this

end ContractDrift.Soap
