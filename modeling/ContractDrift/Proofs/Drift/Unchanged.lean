/-
Contracts that have not changed.

The two sides of a check read a document in different ways: the baseline of a message schema is
entered in a registry of its own first, under the name of the check, and a live one is only read
as JSON.  What the first way accepts the second accepts too, with the same names
(`liveNames_of_projectBaseline`), so a document that is compared with itself is clean unless it
is refused as a baseline (`checkDrift_unchanged`).

Design notes: the converse fails, since a schema that is no valid one is refused as a baseline
but has names as a live contract.  The theorem therefore tells the two apart by the baseline.
-/
import ContractDrift.Proofs.Drift.Isolation
import ContractDrift.Proofs.Schema.History

namespace ContractDrift.Drift

open ContractDrift.Text (Octets)

variable {a : Access} {c : Check} {p : Files.Path} {document : Octets} {names : List String}

/-! ## Two ways to the same names -/

/-- The names of a schema do not depend on the side that it stands on. -/
theorem requiredNames_of_side {side : Side} {schema : Json.Value}
    (h : requiredNames side schema = .ok names) (side' : Side) :
    requiredNames side' schema = .ok names := by
  cases schema with
  | object m =>
    simp only [requiredNames] at h ⊢
    cases hv : Json.Members.get? m "required" with
    | none => simpa only [hv] using h
    | some v =>
      simp only [hv] at h ⊢
      by_cases htrue : v.isTruthy = true
      · rw [htrue] at h ⊢
        cases v with
        | array xs =>
          -- the side shows only where an item is no text, and then there are no names
          by_cases htexts : xs.all Json.Value.isText = true
          · simpa [htexts] using h
          · simp [htexts] at h
        | _ => simp at h
      · simpa [htrue] using h
  | _ => cases h

/-- A message schema that is accepted as a baseline, under whatever name, is accepted as a live
contract, with the same required fields. -/
theorem liveSchemaNames_of_baselineSchemaNames {name path : String}
    (h : baselineSchemaNames name path document = .ok names) :
    liveSchemaNames document = .ok names := by
  unfold baselineSchemaNames at h
  split at h
  · rename_i l hcompile
    obtain ⟨m, hm, -, -, -, -, hl⟩ := Schema.compile_eq_ok_iff.mp hcompile
    -- what is compiled is the object that the octets are read as
    have hjson : Json.parseOctets document = .ok (.object m) :=
      Schema.members_octets_eq_ok_iff.mp hm
    have hdocument : l.schema.document = m := by
      rw [hl]
      rfl
    rw [hdocument] at h
    unfold liveSchemaNames
    rw [hjson]
    exact requiredNames_of_side h .live
  · cases h

theorem liveNames_of_projectBaseline (h : projectBaseline c p document = .ok names) :
    liveNames c.family document = .ok names := by
  unfold projectBaseline at h
  unfold liveNames
  cases hfamily : c.family with
  | wsdl =>
    rw [hfamily] at h
    exact h
  | message =>
    rw [hfamily] at h
    exact liveSchemaNames_of_baselineSchemaNames h

/-! ## A document against itself -/

/-- The baseline of a check is at hand: it is there, at a path, and has a content. -/
structure Holds (a : Access) (c : Check) (p : Files.Path) (document : Octets) : Prop where
  isFile : a.isFile c.baselinePath = .ok true
  resolve : a.resolve c.baselinePath = .ok p
  read : a.read c.baselinePath = .ok document

theorem Holds.baselineNames_eq (h : Holds a c p document) :
    baselineNames a c = projectBaseline c p document := by
  unfold baselineNames projectBaseline
  rw [h.read]
  cases c.family with
  | wsdl => rfl
  | message =>
    simp only [h.resolve]
    rfl

/-- A file of a reader is at hand unless its path is too long to be looked up. -/
theorem holds_fetching {r : Files.Reader} (hp : IsBaseline r c p document)
    (hlength : r.tree.isTooLong p = false)
    (fetch : String → Except Http.FetchError Octets) :
    Holds (Access.fetching r fetch) c p document := by
  refine ⟨isFile_of_isBaseline hp hlength, ?_, ?_⟩
  · simp only [Access.fetching, hp.1, Except.mapError]
  · simp only [Access.fetching, Files.Reader.read_of_file hp.1 hlength hp.2, Except.mapError]

/-- A contract that has not changed does not drift.  Where the endpoint answers with the content
of the baseline, a check finds that all is the same, for either family, under every policy and
every name; or the baseline itself is refused, which is the only detail, and nothing is
fetched.  For a message schema this is because what is accepted as a baseline has the same names
as a live contract. -/
theorem checkDrift_unchanged {address : String} (hheld : Holds a c p document)
    (haddress : HasEndpoint c address) (hfetch : a.fetch address = .ok document) :
    (∀ e, projectBaseline c p document = .error e →
      checkDrift a c = .ok
        ⟨⟨c.name, true, ["Error checking " ++ c.name ++ ": " ++ e.message]⟩, none⟩) ∧
    (∀ names, projectBaseline c p document = .ok names →
      checkDrift a c = .ok ⟨⟨c.name, false, [c.family.matchLine]⟩, some address⟩) ∧
    ∀ name path names, baselineSchemaNames name path document = .ok names →
      liveSchemaNames document = .ok names := by
  have hcheck : checkDrift a c = .ok (compareLive a c address) :=
    checkDrift_of_hasEndpoint hheld.isFile haddress
  refine ⟨fun e he => ?_, fun names hnames => ?_, fun _ _ _ h =>
    liveSchemaNames_of_baselineSchemaNames h⟩
  -- the document is at hand, so its failure is none of the network
  · have hrefused : e.isUnreachable = false := by
      have hprojection := isProjection_projectBaseline c p document
      rwa [he] at hprojection
    simp only [hcheck, compareLive, hheld.baselineNames_eq, he, failed_eq c hrefused]
  · have hlive : (a.fetch address).bind (liveNames c.family) = .ok names := by
      rw [hfetch]
      exact liveNames_of_projectBaseline hnames
    simp only [hcheck, compareLive, hheld.baselineNames_eq, hnames, hlive, compareNames_self]

/-- A check of a message schema without a name, under the policy that excuses additions. -/
def namelessCheck : Check :=
  ⟨"", .message, "order.json", some "http://localhost/order", some .drift, .breaking⟩

/-- A message schema with an identifier of its own and two required fields. -/
def orderSchema : String := "\x7b\"$id\": \"urn:order\", \"required\": [\"id\", \"total\"]\x7d"

theorem projectBaseline_orderSchema :
    projectBaseline namelessCheck ["srv", "order.json"] (Text.utf8 orderSchema) =
      .ok ["id", "total"] := by
  rw [← toOption_eq_some_iff, orderSchema, Text.utf8_ofList]
  decide +kernel

/-- Without a name the schema is entered under its own identifier, and is clean. -/
theorem checkDrift_unchanged_namelessCheck :
    let document := Text.utf8 orderSchema
    let r : Files.Reader := ⟨⟨[(["srv", "order.json"], .file document)]⟩, ["srv"]⟩
    let a := Access.fetching r fun _ => .ok document
    Holds a namelessCheck ["srv", "order.json"] document ∧
      HasEndpoint namelessCheck "http://localhost/order" ∧
      a.fetch "http://localhost/order" = .ok document ∧
      checkDrift a namelessCheck =
        .ok ⟨⟨"", false, ["Message schemas match"]⟩, some "http://localhost/order"⟩ := by
  have hp : IsBaseline ⟨⟨[(["srv", "order.json"], .file (Text.utf8 orderSchema))]⟩, ["srv"]⟩
      namelessCheck ["srv", "order.json"] (Text.utf8 orderSchema) := ⟨rfl, rfl⟩
  intro document r a
  have hheld : Holds a namelessCheck ["srv", "order.json"] document :=
    holds_fetching hp (by decide) fun _ => .ok document
  have haddress : HasEndpoint namelessCheck "http://localhost/order" := ⟨rfl, by decide⟩
  have hunchanged := checkDrift_unchanged hheld haddress rfl
  exact ⟨hheld, haddress, rfl, hunchanged.2.1 _ projectBaseline_orderSchema⟩

end ContractDrift.Drift
