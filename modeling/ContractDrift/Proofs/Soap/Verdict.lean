/-
The verdict on the body of an envelope.

A message is found in a document by its body (`HasBody`) and its wrapper (`HasWrapper`), and
what is in the wrapper is accepted (`Accepts`) or not.  Of the four outcomes of a check
(`validateIn_of_…`) three refuse the document and one compares names;
`validate_verdict` puts them together.
-/
import ContractDrift.Proofs.Text.Order
import ContractDrift.Soap.Validation

namespace ContractDrift.Soap

open ContractDrift.Wsdl (Direction Field Model Operation wrapperName)
open ContractDrift.Xml (Node)

variable {m : Model} {octets : Text.Octets} {name : String} {d : Direction}

/-! ## Where a message stands -/

/-- A document has a body: it is well-formed, its root is an envelope, and the first child of
that name is the body. -/
def HasBody (octets : Text.Octets) (body : Node) : Prop :=
  ∃ envelope, Node.parse octets = .ok envelope ∧ envelope.name = "Envelope" ∧
    envelope.child "Body" = some body

/-- A document has a wrapper for an operation's message: the first child of the body that is
named after the operation and the direction. -/
def HasWrapper (octets : Text.Octets) (name : String) (d : Direction) (content : Node) : Prop :=
  ∃ body, HasBody octets body ∧ body.child (wrapperName name d) = some content

/-- A document is written in characters that can be read, well-formed or not. -/
def IsReadable (octets : Text.Octets) : Prop :=
  ∀ e, Node.parse octets = .error e → e.isOfContent = true

/-! ## What is accepted -/

/-- The names inside a wrapper are accepted: all required fields are among them, and in
strict mode there is no name that no field has. -/
structure Accepts (strict : Bool) (fields : List Field) (present : List String) : Prop where
  required_mem : ∀ f ∈ fields, f.required = true → f.name ∈ present
  declared : strict = true → ∀ n ∈ present, ∃ f ∈ fields, f.name = n

/-- The names that no field has, each once and in the order of their first places. -/
structure AreUnexpected (fields : List Field) (present unexpected : List String) : Prop where
  nodup : unexpected.Nodup
  mem_iff : ∀ n, n ∈ unexpected ↔ n ∈ present ∧ ∀ f ∈ fields, f.name ≠ n
  order : unexpected.Pairwise fun a b => present.idxOf a < present.idxOf b

theorem areUnexpected_unexpectedNames (fields : List Field) (present : List String) :
    AreUnexpected fields present (unexpectedNames fields present) := by
  refine ⟨Text.nodup_distinct _, fun n => ?_, ?_⟩
  · rw [unexpectedNames, Text.mem_distinct, List.mem_filter]
    simp
  · rw [unexpectedNames, Text.distinct_filter]
    exact (Text.pairwise_distinct present).filter _

theorem missingFields_eq_nil_iff {fields : List Field} {present : List String} :
    missingFields fields present = [] ↔
      ∀ f ∈ fields, f.required = true → f.name ∈ present := by
  simp [missingFields]

theorem judge_valid_iff (strict : Bool) (operation : String) (fields : List Field)
    (present : List String) :
    (judge strict operation fields present).valid = true ↔ Accepts strict fields present := by
  have hunexpected : unexpectedNames fields present = [] ↔
      ∀ n ∈ present, ∃ f ∈ fields, f.name = n := by
    rw [List.eq_nil_iff_forall_not_mem]
    refine forall_congr' fun n => ?_
    rw [(areUnexpected_unexpectedNames fields present).mem_iff]
    simp
  have hvalid : (judge strict operation fields present).valid = true ↔
      missingFields fields present = [] ∧
        (strict = true → unexpectedNames fields present = []) := by
    cases strict <;> simp [judge]
  rw [hvalid, missingFields_eq_nil_iff, hunexpected]
  exact ⟨fun ⟨h, h'⟩ => ⟨h, h'⟩, fun h => ⟨h.required_mem, h.declared⟩⟩

/-! ## Finding the body -/

theorem findBody_eq_some (h : HasBody octets body) : findBody octets = .ok (some body) := by
  obtain ⟨envelope, hparse, hname, hbody⟩ := h
  simp only [findBody, hparse, bodyOf?, if_pos hname, hbody]

/-- In an envelope that is refused for what it says nothing is found. -/
theorem findBody_of_error {error : Xml.DocumentError} (h : Node.parse octets = .error error)
    (hcontent : error.isOfContent = true) : findBody octets = .ok none := by
  cases error with
  | empty => simp only [findBody, h]
  | unreadable e =>
    cases e with
    | malformed f line column => simp only [findBody, h]
    | _ => exact absurd hcontent Bool.false_ne_true

/-- What keeps a body from being looked for is a refusal to read the envelope, and not one for
what the envelope says. -/
theorem findBody_eq_error_iff_parse {e : Xml.ReadError} :
    findBody octets = .error e ↔ Node.parse octets = .error (.unreadable e) ∧
      (Xml.DocumentError.unreadable e).isOfContent = false := by
  rw [findBody]
  cases Node.parse octets with
  | ok envelope => simp
  | error error =>
    cases error with
    | empty => simp
    | unreadable e' =>
      cases e' with
      | malformed f line column =>
        refine iff_of_false nofun ?_
        rintro ⟨heq, hcontent⟩
        cases heq
        cases hcontent
      | _ =>
        simp only [Except.error.injEq, Xml.DocumentError.unreadable.injEq]
        exact ⟨fun h => ⟨h, h ▸ rfl⟩, And.left⟩

theorem findBody_eq_none (hreadable : IsReadable octets) (h : ∀ body, ¬ HasBody octets body) :
    findBody octets = .ok none := by
  cases hparse : Node.parse octets with
  | ok envelope =>
    simp only [findBody, hparse, bodyOf?]
    -- without a body either the root is no envelope, or it has no child of that name
    split
    · rename_i hname
      cases hbody : envelope.child "Body" with
      | none => rfl
      | some body => exact absurd ⟨envelope, hparse, hname, hbody⟩ (h body)
    · rfl
  | error e => exact findBody_of_error hparse (hreadable e hparse)

/-- Only a document that cannot be read keeps the body from being looked for. -/
theorem exists_findBody_error_iff :
    (∃ e, findBody octets = .error e) ↔ ¬ IsReadable octets := by
  simp only [findBody_eq_error_iff_parse, IsReadable, not_forall, Bool.not_eq_true]
  constructor
  · rintro ⟨e, hparse, hcontent⟩
    exact ⟨_, hparse, hcontent⟩
  · rintro ⟨error, hparse, hcontent⟩
    cases error with
    | empty => cases hcontent
    | unreadable e => exact ⟨e, hparse, hcontent⟩

theorem HasBody.unique {body body' : Node} (h : HasBody octets body) (h' : HasBody octets body') :
    body = body' := by
  have := (findBody_eq_some h).symm.trans (findBody_eq_some h')
  simpa using this

theorem HasWrapper.unique {content content' : Node} (h : HasWrapper octets name d content)
    (h' : HasWrapper octets name d content') : content = content' := by
  obtain ⟨body, hbody, hcontent⟩ := h
  obtain ⟨body', hbody', hcontent'⟩ := h'
  rw [hbody'.unique hbody, hcontent] at hcontent'
  exact Option.some.inj hcontent'

/-! ## The four outcomes -/

theorem validateIn_of_operation_none (h : m.operation? name = none) (strict : Bool) :
    validateIn m strict octets name d = .ok (refusal name ("Operation not found: " ++ name)) := by
  simp only [validateIn, h]

theorem validateIn_of_not_hasBody {o : Operation} (ho : m.operation? name = some o)
    (hreadable : IsReadable octets) (h : ∀ body, ¬ HasBody octets body) (strict : Bool) :
    validateIn m strict octets name d = .ok (refusal name "SOAP Body not found") := by
  simp only [validateIn, ho, findBody_eq_none hreadable h, bind, Except.bind]
  rfl

theorem validateIn_of_hasBody {o : Operation} {body : Node} (ho : m.operation? name = some o)
    (h : HasBody octets body) (strict : Bool) :
    validateIn m strict octets name d = .ok (judgeBody strict o name d body) := by
  simp only [validateIn, ho, findBody_eq_some h, bind, Except.bind]
  rfl

theorem validateIn_of_child_none {o : Operation} {body : Node} (ho : m.operation? name = some o)
    (h : HasBody octets body) (hchild : body.child (wrapperName name d) = none) (strict : Bool) :
    validateIn m strict octets name d =
      .ok (refusal name (wrapperName name d ++ " element not found in SOAP Body")) := by
  rw [validateIn_of_hasBody ho h, judgeBody, hchild]

theorem validateIn_of_hasWrapper {o : Operation} {content : Node}
    (ho : m.operation? name = some o) (h : HasWrapper octets name d content) (strict : Bool) :
    validateIn m strict octets name d =
      .ok (judge strict name (o.fieldsFor d) content.childNames) := by
  obtain ⟨body, hbody, hchild⟩ := h
  rw [validateIn_of_hasBody ho hbody, judgeBody, hchild]

/-- The verdict on an envelope fails only for an operation that is known. -/
theorem exists_validateIn_error_iff (m : Model) (strict : Bool) (octets : Text.Octets)
    (operation : String) (d : Direction) :
    (∃ e, validateIn m strict octets operation d = .error e) ↔
      ∃ o, m.operation? operation = some o ∧ ¬ IsReadable octets := by
  rw [validateIn]
  cases m.operation? operation with
  | none => simp
  | some o =>
    rw [← exists_findBody_error_iff]
    cases findBody octets with
    | error e => simp [bind, Except.bind]
    | ok body => cases body <;> simp [bind, Except.bind, pure, Except.pure]

theorem validate_eq {direction : Json.Value} (hd : Direction.ofValue direction = .ok d)
    {strict : Bool} {v : Verdict} (h : validateIn m strict octets name d = .ok v) :
    validate m strict octets name direction = .ok v := by
  simp only [validate, hd, h]

/-- What is found missing and what unexpected in a document: where the message is found, the
required fields that are not in it and the names that no field has; otherwise the first thing
that is not found. -/
structure Findings (m : Model) (octets : Text.Octets) (name : String) (d : Direction)
    (missing unexpected : List String) : Prop where
  of_operation_none : m.operation? name = none →
    missing = ["Operation not found: " ++ name] ∧ unexpected = []
  of_not_hasBody : ∀ o, m.operation? name = some o → (∀ body, ¬ HasBody octets body) →
    missing = ["SOAP Body not found"] ∧ unexpected = []
  of_child_none : ∀ o body, m.operation? name = some o → HasBody octets body →
    body.child (wrapperName name d) = none →
      missing = [wrapperName name d ++ " element not found in SOAP Body"] ∧ unexpected = []
  of_hasWrapper : ∀ o content, m.operation? name = some o → HasWrapper octets name d content →
    missing = ((o.fieldsFor d).filter fun f =>
        f.required && !content.childNames.contains f.name).map Field.name ∧
      AreUnexpected (o.fieldsFor d) content.childNames unexpected

theorem HasBody.not_hasWrapper {body : Node} (h : HasBody octets body)
    (hchild : body.child (wrapperName name d) = none) (content : Node) :
    ¬ HasWrapper octets name d content := by
  rintro ⟨body', hbody', hcontent⟩
  rw [hbody'.unique h, hchild] at hcontent
  exact absurd hcontent (Option.some_ne_none content).symm

/-- The verdict on an envelope: the findings are the same in both modes, and the envelope is
valid exactly when its message is found and the names in it are accepted. -/
theorem validate_verdict (m : Model) {direction : Json.Value}
    (hd : Direction.ofValue direction = .ok d) (hreadable : IsReadable octets) (name : String) :
    ∃ missing unexpected, Findings m octets name d missing unexpected ∧
      ∀ strict, ∃ valid,
        validate m strict octets name direction = .ok ⟨valid, missing, unexpected, name⟩ ∧
          (valid = true ↔ ∃ o content, m.operation? name = some o ∧
            HasWrapper octets name d content ∧
              Accepts strict (o.fieldsFor d) content.childNames) := by
  -- one case for each thing that can be missing, in the order in which it is looked for
  cases ho : m.operation? name with
  | none =>
    refine ⟨_, [], ⟨fun _ => ⟨rfl, rfl⟩, ?_, ?_, ?_⟩, fun strict =>
      ⟨false, validate_eq hd (validateIn_of_operation_none ho strict), ?_⟩⟩ <;> simp [ho]
  | some o =>
    by_cases hbody : ∃ body, HasBody octets body
    · obtain ⟨body, hbody⟩ := hbody
      cases hchild : body.child (wrapperName name d) with
      | none =>
        have hnone := hbody.not_hasWrapper hchild
        refine ⟨_, [], ⟨?_, ?_, fun _ _ _ _ _ => ⟨rfl, rfl⟩, ?_⟩, fun strict =>
          ⟨false, validate_eq hd (validateIn_of_child_none ho hbody hchild strict), ?_⟩⟩
        · simp [ho]
        · exact fun _ _ h => absurd hbody (h body)
        · exact fun _ content _ h => absurd h (hnone content)
        · simp [hnone]
      | some content =>
        -- the findings do not look at the mode, so they serve for both
        have hwrapper : HasWrapper octets name d content := ⟨body, hbody, hchild⟩
        refine ⟨missingFields (o.fieldsFor d) content.childNames,
          unexpectedNames (o.fieldsFor d) content.childNames, ⟨?_, ?_, ?_, ?_⟩, fun strict =>
          ⟨_, validate_eq hd (validateIn_of_hasWrapper ho hwrapper strict), ?_⟩⟩
        · simp [ho]
        · exact fun _ _ h => absurd hbody (h body)
        · intro _ body' _ hbody' hchild'
          exact absurd hwrapper (hbody'.not_hasWrapper hchild' content)
        · intro o' content' ho' hwrapper'
          obtain rfl : o = o' := Option.some.inj (ho.symm.trans ho')
          obtain rfl := hwrapper.unique hwrapper'
          exact ⟨rfl, areUnexpected_unexpectedNames _ _⟩
        · refine (judge_valid_iff strict name _ _).trans ⟨?_, ?_⟩
          · exact fun h => ⟨o, content, rfl, hwrapper, h⟩
          · rintro ⟨o', content', ho', hwrapper', h⟩
            obtain rfl : o = o' := Option.some.inj ho'
            rwa [hwrapper.unique hwrapper']
    · have hbody : ∀ body, ¬ HasBody octets body := not_exists.mp hbody
      have hnone (content : Node) : ¬ HasWrapper octets name d content := by
        rintro ⟨body, h, -⟩
        exact hbody body h
      refine ⟨_, [], ⟨?_, fun _ _ _ => ⟨rfl, rfl⟩, ?_, ?_⟩, fun strict =>
        ⟨false, validate_eq hd (validateIn_of_not_hasBody ho hreadable hbody strict), ?_⟩⟩
      · simp [ho]
      · exact fun _ body _ h => absurd h (hbody body)
      · exact fun _ content _ h => absurd h (hnone content)
      · simp [hnone]

/-- A document with an element of one required field, another that is not declared, and
without the other required field. -/
def incompleteOrder : String :=
  "<Envelope><Body><OrderRequest><sku/><note/><note/></OrderRequest></Body></Envelope>"

theorem isReadable_incompleteOrder : IsReadable (Text.utf8 incompleteOrder) := by
  intro e he
  have hparse : (Node.parse (Text.utf8 incompleteOrder)).toOption.isSome = true := by
    rw [incompleteOrder, Text.utf8_ofList]
    decide +kernel
  rw [he] at hparse
  exact absurd hparse Bool.false_ne_true

theorem validate_verdict_incompleteOrder :
    let m : Model := ⟨[], [("Order", ⟨"Order", "",
      [.mk "sku" "string" true none, .mk "count" "int" false none, .mk "total" "int" true none],
      []⟩)]⟩
    ∃ missing unexpected,
      Findings m (Text.utf8 incompleteOrder) "Order" .input missing unexpected ∧
        ∀ strict, ∃ valid,
          validate m strict (Text.utf8 incompleteOrder) "Order" (.text "input") =
              .ok ⟨valid, missing, unexpected, "Order"⟩ ∧
            (valid = true ↔ ∃ o content, m.operation? "Order" = some o ∧
              HasWrapper (Text.utf8 incompleteOrder) "Order" .input content ∧
                Accepts strict (o.fieldsFor .input) content.childNames) :=
  validate_verdict _ rfl isReadable_incompleteOrder "Order"

end ContractDrift.Soap
