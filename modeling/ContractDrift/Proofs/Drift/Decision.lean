/-
What a check decides.

A check comes to its result by way of its baseline (`IsBaseline`), its endpoint
(`HasEndpoint`) and the names that both are projected to (`Compares`).  `Drifts` lists the
findings that are drift and `IsComparison` says what the details of a comparison are;
`checkDrift_decision` states that a check decides just this, unless the path of its baseline is
too long to be looked up.

Design notes: endpoints answer in any way (`Access.fetching`), so an answer need not come from
a network.  With a baseline and an endpoint at hand the findings are a condition on the
two documents (`drifts_iff`), which `compareLive` decides in the order of its cases.
-/
import ContractDrift.Proofs.Files.Reader
import ContractDrift.Proofs.Text.Order
import ContractDrift.Proofs.Wsdl.Model
import ContractDrift.Drift.Detector

namespace ContractDrift.Drift

open ContractDrift.Text (Octets)

/-! ## Projected names -/

/-- Whether a failure is that of an endpoint. -/
def Failure.isUnreachable : Failure → Bool
  | .unreachable _ _ => true
  | _ => false

/-- A document is projected to names, none of them twice, or fails for what it says. -/
def IsProjection : Except Failure (List String) → Prop
  | .ok names => names.Nodup
  | .error e => e.isUnreachable = false

theorem isProjection_wsdlNames (document : Octets) : IsProjection (wsdlNames document) := by
  unfold wsdlNames
  split
  · rename_i m hm
    exact Wsdl.Model.nodup_operationNames hm
  · rfl

theorem isProjection_requiredNames (side : Side) (schema : Json.Value) :
    IsProjection (requiredNames side schema) := by
  unfold requiredNames
  split
  · split
    · exact List.nodup_nil
    · split
      · exact List.nodup_nil
      · split
        · split
          · exact Text.nodup_distinct _
          · rfl
        · rfl
  · rfl

/-- The names of a baseline that stands at a path. -/
def projectBaseline (c : Check) (p : Files.Path) (document : Octets) :
    Except Failure (List String) :=
  match c.family with
  | .wsdl => wsdlNames document
  | .message => baselineSchemaNames c.name p.text document

theorem isProjection_projectBaseline (c : Check) (p : Files.Path) (document : Octets) :
    IsProjection (projectBaseline c p document) := by
  unfold projectBaseline
  cases c.family with
  | wsdl => exact isProjection_wsdlNames document
  | message =>
    show IsProjection (baselineSchemaNames c.name p.text document)
    unfold baselineSchemaNames
    split
    · exact isProjection_requiredNames .baseline _
    · rfl

theorem isProjection_liveNames (family : Family) (document : Octets) :
    IsProjection (liveNames family document) := by
  cases family with
  | wsdl => exact isProjection_wsdlNames document
  | message =>
    show IsProjection (liveSchemaNames document)
    unfold liveSchemaNames
    split
    · exact isProjection_requiredNames .live _
    · rfl

/-! ## Compared names -/

/-- The details of a comparison: a line for each name that the live contract lacks and one for
each that only it has, both in the order of code points, and a closing line where the names are
the same or only additions are to be excused. -/
def IsComparison (c : Check) (baseline live details : List String) : Prop :=
  ∃ removed added : List String,
    removed.Pairwise Text.Precedes ∧ (∀ n, n ∈ removed ↔ n ∈ baseline ∧ n ∉ live) ∧
    added.Pairwise Text.Precedes ∧ (∀ n, n ∈ added ↔ n ∈ live ∧ n ∉ baseline) ∧
    details = removed.map c.family.removedLine ++ added.map c.family.addedLine ++
      (if removed = [] ∧ added = [] then [c.family.matchLine]
        else if added ≠ [] ∧ c.policy = .breaking then
          ["Additions are backward compatible under the 'breaking' policy"]
        else [])

theorem mem_namesLost {a b : List String} {n : String} : n ∈ namesLost a b ↔ n ∈ a ∧ n ∉ b := by
  rw [namesLost, Text.mem_sort, List.mem_filter]
  simp

theorem pairwise_namesLost {a : List String} (h : a.Nodup) (b : List String) :
    (namesLost a b).Pairwise Text.Precedes :=
  Text.pairwise_sort (h.filter _)

theorem isComparison_compareNames (c : Check) {baseline live : List String}
    (hbaseline : baseline.Nodup) (hlive : live.Nodup) :
    IsComparison c baseline live (compareNames c baseline live).details := by
  refine ⟨namesLost baseline live, namesLost live baseline, pairwise_namesLost hbaseline live,
    fun _ => mem_namesLost, pairwise_namesLost hlive baseline, fun _ => mem_namesLost, ?_⟩
  rw [compareNames]
  simp [additionsLine]

theorem drifted_compareNames (c : Check) (baseline live : List String) :
    (compareNames c baseline live).drifted = true ↔
      (∃ n ∈ baseline, n ∉ live) ∨ c.policy = .symmetric ∧ ∃ n ∈ live, n ∉ baseline := by
  have hlost (a b : List String) : namesLost a b ≠ [] ↔ ∃ n ∈ a, n ∉ b := by
    rw [ne_eq, List.eq_nil_iff_forall_not_mem]
    simp [mem_namesLost]
  rw [← hlost, ← hlost, compareNames]
  simp [and_comm]

/-! ## What a check finds -/

/-- Access to the files of a reader and to endpoints that answer in any way. -/
def Access.fetching (r : Files.Reader) (fetch : String → Except Http.FetchError Octets) :
    Access where
  isFile path := (r.exists? path).mapError .file
  resolve path := (r.resolve path).mapError .file
  read path := (r.read path).mapError .file
  fetch address := (fetch address).mapError .ofFetch

theorem Access.isFile_fetching (r : Files.Reader)
    (fetch : String → Except Http.FetchError Octets) (path : String) :
    (Access.fetching r fetch).isFile path = (r.exists? path).mapError .file := rfl

/-- The access that a run is given fetches what its network answers. -/
theorem Access.of_eq_fetching (r : Files.Reader) (n : Http.Network) :
    Access.of r n = Access.fetching r fun address => (Http.fetch n address).result := rfl

/-- The baseline of a check is a file: its path resolves under the reader, and this is the
content. -/
def IsBaseline (r : Files.Reader) (c : Check) (p : Files.Path) (document : Octets) : Prop :=
  r.resolve c.baselinePath = .ok p ∧ r.tree.file? p = some document

/-- A check has an endpoint: an address that is not empty. -/
def HasEndpoint (c : Check) (address : String) : Prop :=
  c.liveUrl = some address ∧ address ≠ ""

/-- What is not reached counts as drift: the check says so, or it says nothing and watches a
service description. -/
def CountsUnreachable (c : Check) : Prop :=
  c.onUnreachable = some .drift ∨ c.onUnreachable = none ∧ c.family = .wsdl

variable {r : Files.Reader} {fetch : String → Except Http.FetchError Octets} {c : Check}

/-- Both sides of a check are projected to names. -/
def Compares (r : Files.Reader) (fetch : String → Except Http.FetchError Octets) (c : Check)
    (baseline live : List String) : Prop :=
  ∃ address p document answer, HasEndpoint c address ∧ IsBaseline r c p document ∧
    projectBaseline c p document = .ok baseline ∧ fetch address = .ok answer ∧
      liveNames c.family answer = .ok live

/-- The findings that are drift. -/
inductive Drifts (r : Files.Reader) (fetch : String → Except Http.FetchError Octets)
    (c : Check) : Prop
  | noBaseline : (∀ p document, ¬ IsBaseline r c p document) → Drifts r fetch c
  | badBaseline {address : String} {p : Files.Path} {document : Octets} {e : Failure} :
      HasEndpoint c address → IsBaseline r c p document →
        projectBaseline c p document = .error e → Drifts r fetch c
  | notReached {address : String} {p : Files.Path} {document : Octets} {message : String}
      {status : Option Nat} : HasEndpoint c address → IsBaseline r c p document →
        fetch address = .error (.network message status) → CountsUnreachable c → Drifts r fetch c
  | fetchFailed {address : String} {p : Files.Path} {document : Octets} {problem : Http.Problem} :
      HasEndpoint c address → IsBaseline r c p document →
        fetch address = .error (.other problem) → Drifts r fetch c
  | badAnswer {address : String} {p : Files.Path} {document answer : Octets} {e : Failure} :
      HasEndpoint c address → IsBaseline r c p document → fetch address = .ok answer →
        liveNames c.family answer = .error e → Drifts r fetch c
  | removed {baseline live : List String} {name : String} : Compares r fetch c baseline live →
      name ∈ baseline → name ∉ live → Drifts r fetch c
  | added {baseline live : List String} {name : String} : Compares r fetch c baseline live →
      name ∈ live → name ∉ baseline → c.policy = .symmetric → Drifts r fetch c

theorem address?_eq_some_iff {address : String} :
    c.address? = some address ↔ HasEndpoint c address := by
  rw [Check.address?, Option.filter_eq_some_iff, HasEndpoint]
  simp

theorem unreachable_eq_drift_iff : c.unreachable = .drift ↔ CountsUnreachable c := by
  unfold Check.unreachable CountsUnreachable
  cases c.onUnreachable with
  | none => cases c.family <;> simp
  | some u => simp

theorem IsBaseline.unique {p p' : Files.Path} {document document' : Octets}
    (h : IsBaseline r c p document) (h' : IsBaseline r c p' document') :
    p = p' ∧ document = document' := by
  obtain rfl : p = p' := Except.ok.inj (h.1.symm.trans h'.1)
  exact ⟨rfl, Option.some.inj (h.2.symm.trans h'.2)⟩

theorem HasEndpoint.unique {address address' : String} (h : HasEndpoint c address)
    (h' : HasEndpoint c address') : address = address' :=
  Option.some.inj (h.1.symm.trans h'.1)

/-- The drift of a check that has a baseline and an endpoint. -/
theorem drifts_iff {address : String} {p : Files.Path} {document : Octets}
    (ha : HasEndpoint c address) (hp : IsBaseline r c p document) :
    Drifts r fetch c ↔
      (∃ e, projectBaseline c p document = .error e) ∨
      (∃ message status, fetch address = .error (.network message status)) ∧ CountsUnreachable c ∨
      (∃ problem, fetch address = .error (.other problem)) ∨
      ∃ answer, fetch address = .ok answer ∧
        ((∃ e, liveNames c.family answer = .error e) ∨
          ∃ baseline live, projectBaseline c p document = .ok baseline ∧
            liveNames c.family answer = .ok live ∧
              ((∃ n ∈ baseline, n ∉ live) ∨ c.policy = .symmetric ∧ ∃ n ∈ live, n ∉ baseline)) := by
  constructor
  · intro h
    -- each reason is about the same endpoint and the same baseline
    cases h with
    | noBaseline h => exact absurd hp (h p document)
    | badBaseline ha' hp' h =>
      obtain ⟨rfl, rfl⟩ := hp.unique hp'
      exact Or.inl ⟨_, h⟩
    | notReached ha' hp' h hu =>
      obtain rfl := ha.unique ha'
      exact Or.inr (Or.inl ⟨⟨_, _, h⟩, hu⟩)
    | fetchFailed ha' hp' h =>
      obtain rfl := ha.unique ha'
      exact Or.inr (Or.inr (Or.inl ⟨_, h⟩))
    | badAnswer ha' hp' hf h =>
      obtain rfl := ha.unique ha'
      exact Or.inr (Or.inr (Or.inr ⟨_, hf, Or.inl ⟨_, h⟩⟩))
    | removed hc hn hn' =>
      obtain ⟨address', p', document', answer, ha', hp', hb, hf, hl⟩ := hc
      obtain rfl := ha.unique ha'
      obtain ⟨rfl, rfl⟩ := hp.unique hp'
      exact Or.inr (Or.inr (Or.inr ⟨_, hf, Or.inr ⟨_, _, hb, hl, Or.inl ⟨_, hn, hn'⟩⟩⟩))
    | added hc hn hn' hs =>
      obtain ⟨address', p', document', answer, ha', hp', hb, hf, hl⟩ := hc
      obtain rfl := ha.unique ha'
      obtain ⟨rfl, rfl⟩ := hp.unique hp'
      exact Or.inr (Or.inr (Or.inr ⟨_, hf, Or.inr ⟨_, _, hb, hl, Or.inr ⟨hs, _, hn, hn'⟩⟩⟩))
  · rintro (⟨e, h⟩ | ⟨⟨message, status, h⟩, hu⟩ | ⟨problem, h⟩ | ⟨answer, hf, h⟩)
    · exact .badBaseline ha hp h
    · exact .notReached ha hp h hu
    · exact .fetchFailed ha hp h
    · rcases h with ⟨e, h⟩ | ⟨baseline, live, hb, hl, ⟨n, hn, hn'⟩ | ⟨hs, n, hn, hn'⟩⟩
      · exact .badAnswer ha hp hf h
      · exact .removed ⟨_, _, _, _, ha, hp, hb, hf, hl⟩ hn hn'
      · exact .added ⟨_, _, _, _, ha, hp, hb, hf, hl⟩ hn hn' hs

/-! ## The outcome of a check -/

theorem baselineNames_eq {p : Files.Path} {document : Octets} (hp : IsBaseline r c p document)
    (hlength : r.tree.isTooLong p = false) :
    baselineNames (Access.fetching r fetch) c = projectBaseline c p document := by
  have hread : (Access.fetching r fetch).read c.baselinePath = .ok document := by
    simp [Access.fetching, Files.Reader.read_of_file hp.1 hlength hp.2, Except.mapError]
  have hresolve : (Access.fetching r fetch).resolve c.baselinePath = .ok p := by
    simp [Access.fetching, hp.1, Except.mapError]
  simp only [baselineNames, projectBaseline, hread, bind, Except.bind]
  cases c.family with
  | wsdl => rfl
  | message => simp only [hresolve]

theorem failed_of_not_unreachable {e : Failure} (h : e.isUnreachable = false) :
    (failed c e).drifted = true := by
  cases e with
  | unreachable message status => exact absurd h (by simp [Failure.isUnreachable])
  | _ => rfl

theorem drifted_unreachable (message : String) (status : Option Nat) :
    (failed c (.unreachable message status)).drifted = true ↔ CountsUnreachable c := by
  rw [← unreachable_eq_drift_iff, failed, unreachableResult]
  cases c.unreachable <;> simp

theorem drifted_compareLive {address : String} {p : Files.Path} {document : Octets}
    (ha : HasEndpoint c address) (hp : IsBaseline r c p document)
    (hlength : r.tree.isTooLong p = false) :
    (compareLive (Access.fetching r fetch) c address).result.drifted = true ↔
      Drifts r fetch c := by
  rw [drifts_iff ha hp, compareLive, baselineNames_eq hp hlength]
  -- the cases are those of the code: the baseline, then the answer, then what it projects to
  have hfetch : (Access.fetching r fetch).fetch address =
      (fetch address).mapError .ofFetch := rfl
  have hbaseline := isProjection_projectBaseline c p document
  cases hb : projectBaseline c p document with
  | error e =>
    rw [hb] at hbaseline
    simp [failed_of_not_unreachable hbaseline]
  | ok baseline =>
    rw [hfetch]
    cases hf : fetch address with
    | error e =>
      cases e with
      | network message status =>
        simp [Except.mapError, Except.bind, Failure.ofFetch, drifted_unreachable]
      | other problem =>
        simp [Except.mapError, Except.bind, Failure.ofFetch, failed]
    | ok answer =>
      have hlive := isProjection_liveNames c.family answer
      cases hl : liveNames c.family answer with
      | error e =>
        rw [hl] at hlive
        simp [Except.mapError, Except.bind, hl, failed_of_not_unreachable hlive]
      | ok live =>
        simp [Except.mapError, Except.bind, hl, drifted_compareNames]

theorem not_drifts_of_noEndpoint (hnone : ∀ address, ¬ HasEndpoint c address) {p : Files.Path}
    {document : Octets} (hp : IsBaseline r c p document) : ¬ Drifts r fetch c := by
  intro h
  cases h with
  | noBaseline h => exact h p document hp
  | badBaseline ha | notReached ha | fetchFailed ha | badAnswer ha => exact hnone _ ha
  | removed hc | added hc =>
    obtain ⟨address, _, _, _, ha, _⟩ := hc
    exact hnone address ha

theorem name_failed (c : Check) (e : Failure) : (failed c e).name = c.name := by
  cases e with
  | unreachable message status =>
    rw [failed, unreachableResult]
    split <;> rfl
  | _ => rfl

theorem name_compareLive (a : Access) (c : Check) (address : String) :
    (compareLive a c address).result.name = c.name := by
  unfold compareLive
  split
  · exact name_failed c _
  · split
    · exact name_failed c _
    · rfl

theorem compareLive_of_compares {address : String} {p : Files.Path} {document : Octets}
    (ha : HasEndpoint c address) (hp : IsBaseline r c p document)
    (hlength : r.tree.isTooLong p = false) {baseline live : List String}
    (h : Compares r fetch c baseline live) :
    (compareLive (Access.fetching r fetch) c address).result = compareNames c baseline live ∧
      baseline.Nodup ∧ live.Nodup := by
  obtain ⟨address', p', document', answer, ha', hp', hb, hf, hl⟩ := h
  obtain rfl := ha.unique ha'
  obtain ⟨rfl, rfl⟩ := hp.unique hp'
  have hbaseline := isProjection_projectBaseline c p document
  have hlive := isProjection_liveNames c.family answer
  rw [hb] at hbaseline
  rw [hl] at hlive
  refine ⟨?_, hbaseline, hlive⟩
  have hfetch : (Access.fetching r fetch).fetch address = .ok answer := by
    simp [Access.fetching, hf, Except.mapError]
  rw [compareLive, baselineNames_eq hp hlength, hb]
  simp only [hfetch, Except.bind, hl]

theorem isFile_of_resolve {p : Files.Path} (h : r.resolve c.baselinePath = .ok p) :
    (Access.fetching r fetch).isFile c.baselinePath =
      if r.tree.isTooLong p then .error (.file (.nameTooLong p)) else .ok (r.tree.isFile p) := by
  rw [Access.isFile_fetching, Files.Reader.exists?_of_resolve h]
  split <;> rfl

/-- A check whose baseline cannot be looked up for its length is not made. -/
theorem checkDrift_of_isTooLong {p : Files.Path} (h : r.resolve c.baselinePath = .ok p)
    (hlength : r.tree.isTooLong p = true) :
    checkDrift (Access.fetching r fetch) c = .error (.file (.nameTooLong p)) := by
  rw [checkDrift, isFile_of_resolve h, if_pos hlength]

/-- A baseline is found where it can be looked up. -/
theorem isFile_of_isBaseline {p : Files.Path} {document : Octets} (hp : IsBaseline r c p document)
    (hlength : r.tree.isTooLong p = false) :
    (Access.fetching r fetch).isFile c.baselinePath = .ok true := by
  rw [isFile_of_resolve hp.1, hlength, if_neg Bool.false_ne_true, Files.Tree.isFile, hp.2]
  rfl

theorem isFile_of_not_isBaseline
    (hlength : ∀ p, r.resolve c.baselinePath = .ok p → r.tree.isTooLong p = false)
    (h : ∀ p document, ¬ IsBaseline r c p document) :
    (Access.fetching r fetch).isFile c.baselinePath = .ok false := by
  cases hp : r.resolve c.baselinePath with
  | error e =>
    rw [Access.isFile_fetching, Files.Reader.exists?_of_resolve_error hp]
    rfl
  | ok p =>
    rw [isFile_of_resolve hp, hlength p hp, if_neg Bool.false_ne_true, Files.Tree.isFile]
    cases hdocument : r.tree.file? p with
    | none => rfl
    | some document => exact absurd ⟨hp, hdocument⟩ (h p document)

theorem checkDrift_of_not_isBaseline
    (hlength : ∀ p, r.resolve c.baselinePath = .ok p → r.tree.isTooLong p = false)
    (h : ∀ p document, ¬ IsBaseline r c p document) :
    checkDrift (Access.fetching r fetch) c = .ok ⟨missingBaseline c, none⟩ := by
  rw [checkDrift, isFile_of_not_isBaseline hlength h]

theorem checkDrift_of_isBaseline (fetch : String → Except Http.FetchError Octets)
    {p : Files.Path} {document : Octets} (hp : IsBaseline r c p document)
    (hlength : r.tree.isTooLong p = false) :
    checkDrift (Access.fetching r fetch) c =
      match c.address? with
      | none => .ok ⟨noEndpoint c, none⟩
      | some address => .ok (compareLive (Access.fetching r fetch) c address) := by
  have hfile : (Access.fetching r fetch).isFile c.baselinePath = .ok true :=
    isFile_of_isBaseline hp hlength
  cases ha : c.address? with
  | none => simp only [checkDrift, hfile, ha]
  | some address => simp only [checkDrift, hfile, ha]

/-- What a check decides.  It is not made when the path of its baseline is too long to be
looked up; in every other case it comes to a result, which is drift exactly for the findings
of `Drifts`, and whose details are those of the comparison where both sides are projected. -/
theorem checkDrift_decision (r : Files.Reader)
    (fetch : String → Except Http.FetchError Octets) (c : Check) :
    (∀ p, r.resolve c.baselinePath = .ok p → r.tree.isTooLong p = true →
      checkDrift (Access.fetching r fetch) c = .error (.file (.nameTooLong p))) ∧
    ((∀ p, r.resolve c.baselinePath = .ok p → r.tree.isTooLong p = false) →
      ∃ o, checkDrift (Access.fetching r fetch) c = .ok o ∧ o.result.name = c.name ∧
        (o.result.drifted = true ↔ Drifts r fetch c) ∧
        ∀ baseline live, Compares r fetch c baseline live →
          IsComparison c baseline live o.result.details) := by
  refine ⟨fun p h hlength => checkDrift_of_isTooLong h hlength, fun hlength => ?_⟩
  by_cases hbaseline : ∃ p document, IsBaseline r c p document
  · obtain ⟨p, document, hp⟩ := hbaseline
    have hcheck := checkDrift_of_isBaseline fetch hp (hlength p hp.1)
    cases ha : c.address? with
    | none =>
      -- nothing is fetched, and all the other findings are about an endpoint
      have hnone (address : String) : ¬ HasEndpoint c address := by
        rw [← address?_eq_some_iff, ha]
        exact (Option.some_ne_none address).symm
      rw [ha] at hcheck
      refine ⟨_, hcheck, rfl, ?_, ?_⟩
      · exact ⟨fun h => absurd h Bool.false_ne_true,
          fun h => absurd h (not_drifts_of_noEndpoint hnone hp)⟩
      · rintro baseline live ⟨address, _, _, _, h, _⟩
        exact absurd h (hnone address)
    | some address =>
      have ha' := address?_eq_some_iff.mp ha
      rw [ha] at hcheck
      refine ⟨_, hcheck, name_compareLive _ c address,
        drifted_compareLive ha' hp (hlength p hp.1), fun baseline live h => ?_⟩
      obtain ⟨hresult, hb, hl⟩ := compareLive_of_compares ha' hp (hlength p hp.1) h
      rw [hresult]
      exact isComparison_compareNames c hb hl
  · simp only [not_exists] at hbaseline
    refine ⟨_, checkDrift_of_not_isBaseline hlength hbaseline, rfl, ?_, ?_⟩
    · exact ⟨fun _ => .noBaseline hbaseline, fun _ => rfl⟩
    · rintro baseline live ⟨_, p, document, _, _, hp, _⟩
      exact absurd hp (hbaseline p document)

end ContractDrift.Drift
