/-
What the policies of a check change.

What a check finds out is one thing (`finding`) and how it is told another (`Finding.outcome`):
neither the policy of a check nor its meaning of an endpoint that is not reached has a part in
what is found, so two checks that differ in nothing else find the same.  Each of the two then
shows in one kind of finding only: the policy where names are compared
(`differByPolicy_outcome`), the meaning where the endpoint is not reached
(`outcome_of_not_unreached`).  `checkDrift_policies` states both for the files of a reader and
endpoints that answer in any way.

Design notes: that two findings are the same holds by definition, because `finding` reads none of
the two fields.  The work is to say which findings they are, without the function that comes to
them (`finding_eq_names_iff`, `finding_eq_unreachable_iff`).
-/
import ContractDrift.Proofs.Drift.Isolation

namespace ContractDrift.Drift

open ContractDrift.Text (Octets)

/-! ## What a check finds -/

/-- What a check finds, before its policies are asked. -/
inductive Finding where
  | noBaseline
  | noEndpoint
  /-- There are no names to compare; the address is the one that has been fetched, if any was. -/
  | failure (e : Failure) (fetched : Option String)
  | names (baseline live : List String) (address : String)

/-- The outcome of a check that finds something. -/
def Finding.outcome (c : Check) : Finding → Outcome
  | noBaseline => ⟨missingBaseline c, none⟩
  | noEndpoint => ⟨Drift.noEndpoint c, none⟩
  | failure e fetched => ⟨failed c e, fetched⟩
  | names baseline live address => ⟨compareNames c baseline live, some address⟩

/-- What is found by a check whose baseline is there and that has an address to fetch. -/
def findingLive (a : Access) (c : Check) (address : String) : Finding :=
  match baselineNames a c with
  | .error e => .failure e none
  | .ok baseline =>
    match (a.fetch address).bind (liveNames c.family) with
    | .error e => .failure e (some address)
    | .ok live => .names baseline live address

/-- What a check finds. -/
def finding (a : Access) (c : Check) : Except Failure Finding :=
  match a.isFile c.baselinePath with
  | .error e => .error e
  | .ok false => .ok .noBaseline
  | .ok true =>
    match c.address? with
    | none => .ok .noEndpoint
    | some address => .ok (findingLive a c address)

theorem compareLive_eq (a : Access) (c : Check) (address : String) :
    compareLive a c address = (findingLive a c address).outcome c := by
  unfold compareLive findingLive
  cases baselineNames a c with
  | error e => rfl
  | ok baseline => cases (a.fetch address).bind (liveNames c.family) <;> rfl

/-- A check tells what it has found. -/
theorem checkDrift_eq (a : Access) (c : Check) :
    checkDrift a c = (finding a c).map (Finding.outcome c) := by
  unfold checkDrift finding
  cases a.isFile c.baselinePath with
  | error e => rfl
  | ok found =>
    cases found with
    | false => rfl
    | true =>
      cases c.address? with
      | none => rfl
      | some address => exact congrArg Except.ok (compareLive_eq a c address)

/-! ## Findings that the policies show in -/

/-- The same check under another policy. -/
def Check.withPolicy (c : Check) (policy : Policy) : Check :=
  { c with policy }

@[simp, grind =]
theorem Check.policy_withPolicy (c : Check) (policy : Policy) :
    (c.withPolicy policy).policy = policy := rfl

@[simp, grind =]
theorem Check.family_withPolicy (c : Check) (policy : Policy) :
    (c.withPolicy policy).family = c.family := rfl

/-- The same check with another meaning of an endpoint that is not reached. -/
def Check.withMeaning (c : Check) (u : Option Unreachable) : Check :=
  { c with onUnreachable := u }

variable {r : Files.Reader} {fetch : String → Except Http.FetchError Octets} {c : Check}

/-- The endpoint of a check is asked, and not reached. -/
def IsUnreached (r : Files.Reader) (fetch : String → Except Http.FetchError Octets) (c : Check) :
    Prop :=
  ∃ address p document baseline message status, HasEndpoint c address ∧
    IsBaseline r c p document ∧ projectBaseline c p document = .ok baseline ∧
      fetch address = .error (.network message status)

/-- The path of a check can be looked up. -/
def CanBeLookedUp (r : Files.Reader) (c : Check) : Prop :=
  ∀ p, r.resolve c.baselinePath = .ok p → r.tree.isTooLong p = false

/-- What the baseline and the answer of an endpoint come to. -/
theorem findingLive_fetching {address : String} {p : Files.Path} {document : Octets}
    (hp : IsBaseline r c p document) (hlength : r.tree.isTooLong p = false) :
    findingLive (Access.fetching r fetch) c address =
      match projectBaseline c p document with
      | .error e => .failure e none
      | .ok baseline =>
        match fetch address with
        | .error e => .failure (.ofFetch e) (some address)
        | .ok answer =>
          match liveNames c.family answer with
          | .error e => .failure e (some address)
          | .ok live => .names baseline live address := by
  have hfetch : (Access.fetching r fetch).fetch address =
      (fetch address).mapError .ofFetch := rfl
  rw [findingLive, baselineNames_eq hp hlength, hfetch]
  cases projectBaseline c p document with
  | error e => rfl
  | ok baseline => cases fetch address <;> rfl

/-- A check whose path can be looked up finds that there is no baseline or no endpoint, or what the
two come to. -/
theorem finding_cases (fetch : String → Except Http.FetchError Octets)
    (hlength : CanBeLookedUp r c) :
    ((finding (Access.fetching r fetch) c = .ok .noBaseline ∨
        finding (Access.fetching r fetch) c = .ok .noEndpoint) ∧
      ∀ address p document, HasEndpoint c address → ¬ IsBaseline r c p document) ∨
    ∃ address p document, HasEndpoint c address ∧ IsBaseline r c p document ∧
      r.tree.isTooLong p = false ∧
      finding (Access.fetching r fetch) c =
        .ok (findingLive (Access.fetching r fetch) c address) := by
  -- without a baseline or an endpoint nothing is fetched
  by_cases hbaseline : ∃ p document, IsBaseline r c p document
  · obtain ⟨p, document, hp⟩ := hbaseline
    have hfile : (Access.fetching r fetch).isFile c.baselinePath = .ok true :=
      isFile_of_isBaseline hp (hlength p hp.1)
    cases haddress : c.address? with
    | none =>
      left
      refine ⟨Or.inr (by simp only [finding, hfile, haddress]), fun address _ _ h => ?_⟩
      rw [← address?_eq_some_iff, haddress] at h
      exact absurd h.symm (Option.some_ne_none address)
    | some address =>
      right
      refine ⟨address, p, document, address?_eq_some_iff.mp haddress, hp, hlength p hp.1, ?_⟩
      simp only [finding, hfile, haddress]
  · simp only [not_exists] at hbaseline
    left
    refine ⟨Or.inl ?_, fun _ p document _ => hbaseline p document⟩
    rw [finding, isFile_of_not_isBaseline hlength hbaseline]

theorem compares_iff {address : String} {p : Files.Path} {document : Octets}
    (haddress : HasEndpoint c address) (hp : IsBaseline r c p document)
    {baseline live : List String} :
    Compares r fetch c baseline live ↔ projectBaseline c p document = .ok baseline ∧
      ∃ answer, fetch address = .ok answer ∧ liveNames c.family answer = .ok live := by
  constructor
  · rintro ⟨address', p', document', answer, ha', hp', hbaseline, hanswer, hlive⟩
    obtain rfl := haddress.unique ha'
    obtain ⟨rfl, rfl⟩ := hp.unique hp'
    exact ⟨hbaseline, answer, hanswer, hlive⟩
  · rintro ⟨hbaseline, answer, hanswer, hlive⟩
    exact ⟨address, p, document, answer, haddress, hp, hbaseline, hanswer, hlive⟩

theorem isUnreached_iff {address : String} {p : Files.Path} {document : Octets}
    (haddress : HasEndpoint c address) (hp : IsBaseline r c p document) :
    IsUnreached r fetch c ↔ (∃ baseline, projectBaseline c p document = .ok baseline) ∧
      ∃ message status, fetch address = .error (.network message status) := by
  constructor
  · rintro ⟨address', p', document', baseline, message, status, ha', hp', hbaseline, herror⟩
    obtain rfl := haddress.unique ha'
    obtain ⟨rfl, rfl⟩ := hp.unique hp'
    exact ⟨⟨baseline, hbaseline⟩, message, status, herror⟩
  · rintro ⟨⟨baseline, hbaseline⟩, message, status, herror⟩
    exact ⟨address, p, document, baseline, message, status, haddress, hp, hbaseline, herror⟩

theorem Compares.unique {baseline live baseline' live' : List String}
    (h : Compares r fetch c baseline live) (h' : Compares r fetch c baseline' live') :
    baseline = baseline' ∧ live = live' := by
  obtain ⟨address, p, document, answer, haddress, hp, hbaseline, hanswer, hlive⟩ := h
  obtain ⟨hbaseline', answer', hanswer', hlive'⟩ := (compares_iff haddress hp).mp h'
  obtain rfl : answer = answer' := Except.ok.inj (hanswer.symm.trans hanswer')
  exact ⟨Except.ok.inj (hbaseline.symm.trans hbaseline'),
    Except.ok.inj (hlive.symm.trans hlive')⟩

/-- Names are found where both sides are projected. -/
theorem finding_eq_names_iff {baseline live : List String} (hlength : CanBeLookedUp r c) :
    (∃ address, finding (Access.fetching r fetch) c = .ok (.names baseline live address)) ↔
      Compares r fetch c baseline live := by
  rcases finding_cases fetch hlength with ⟨hfinding, hnone⟩ |
    ⟨address, p, document, haddress, hp, hshort, hfinding⟩
  · constructor
    · rintro ⟨address, h⟩
      rw [h] at hfinding
      simp at hfinding
    · rintro ⟨address, p, document, _, haddress, hp, _⟩
      exact absurd hp (hnone address p document haddress)
  · rw [hfinding, findingLive_fetching hp hshort, compares_iff haddress hp]
    cases projectBaseline c p document with
    | error e => simp
    | ok names =>
      cases fetch address with
      | error e => simp
      | ok answer => cases hlive : liveNames c.family answer <;> simp [hlive]

theorem ne_unreachable_of_isProjection {e : Failure} (h : IsProjection (.error e))
    (message : String) (status : Option Nat) : e ≠ .unreachable message status := by
  rintro rfl
  exact absurd h (by simp [IsProjection, Failure.isUnreachable])

/-- An endpoint is found to be unreachable where it is asked and not reached. -/
theorem finding_eq_unreachable_iff (hlength : CanBeLookedUp r c) :
    (∃ message status fetched, finding (Access.fetching r fetch) c =
        .ok (.failure (.unreachable message status) fetched)) ↔ IsUnreached r fetch c := by
  rcases finding_cases fetch hlength with ⟨hfinding, hnone⟩ |
    ⟨address, p, document, haddress, hp, hshort, hfinding⟩
  · constructor
    · rintro ⟨message, status, fetched, h⟩
      rw [h] at hfinding
      simp at hfinding
    · rintro ⟨address, p, document, _, _, _, haddress, hp, _⟩
      exact absurd hp (hnone address p document haddress)
  · rw [hfinding, findingLive_fetching hp hshort, isUnreached_iff haddress hp]
    -- what is refused, as a baseline or as an answer, is not an endpoint that is not reached
    have hbaseline := isProjection_projectBaseline c p document
    cases hproject : projectBaseline c p document with
    | error e =>
      rw [hproject] at hbaseline
      simp [ne_unreachable_of_isProjection hbaseline]
    | ok names =>
      cases fetch address with
      | error e => cases e <;> simp [Failure.ofFetch]
      | ok answer =>
        have hlive := isProjection_liveNames c.family answer
        cases hanswer : liveNames c.family answer with
        | error e =>
          rw [hanswer] at hlive
          simp [hanswer, ne_unreachable_of_isProjection hlive]
        | ok live => simp [hanswer]

/-! ## Two policies -/

/-- What the policy of a check changes: the results have the same name; what drifts where
additions are excused drifts where they are not, and the two are told apart by a contract from
which nothing was removed and to which something was added; the details are the same but for the
closing line, which says that something was added and is excused. -/
structure DifferByPolicy (r : Files.Reader) (fetch : String → Except Http.FetchError Octets)
    (c : Check) (breaking symmetric : Result) : Prop where
  name_eq : breaking.name = symmetric.name
  drifted_of_breaking : breaking.drifted = true → symmetric.drifted = true
  drifted_ne_iff : breaking.drifted ≠ symmetric.drifted ↔
    ∃ baseline live, Compares r fetch c baseline live ∧ (∀ n ∈ baseline, n ∈ live) ∧
      ∃ n ∈ live, n ∉ baseline
  details_of_added : (∃ baseline live, Compares r fetch c baseline live ∧
      ∃ n ∈ live, n ∉ baseline) →
    breaking.details =
      symmetric.details ++ ["Additions are backward compatible under the 'breaking' policy"]
  details_of_not_added : (¬ ∃ baseline live, Compares r fetch c baseline live ∧
      ∃ n ∈ live, n ∉ baseline) →
    breaking.details = symmetric.details

theorem namesLost_eq_nil_iff {a b : List String} : namesLost a b = [] ↔ ∀ n ∈ a, n ∈ b := by
  rw [List.eq_nil_iff_forall_not_mem]
  simp [mem_namesLost]

theorem outcome_of_ne_names {f : Finding} (h : ∀ baseline live address,
    f ≠ .names baseline live address) (policy policy' : Policy) :
    f.outcome (c.withPolicy policy) = f.outcome (c.withPolicy policy') := by
  cases f with
  | names baseline live address => exact absurd rfl (h baseline live address)
  | _ => rfl

theorem drifted_breaking_ne_symmetric {baseline live : List String} :
    (compareNames (c.withPolicy .breaking) baseline live).drifted ≠
        (compareNames (c.withPolicy .symmetric) baseline live).drifted ↔
      (∀ n ∈ baseline, n ∈ live) ∧ ∃ n ∈ live, n ∉ baseline := by
  rw [ne_eq, Bool.eq_iff_iff, drifted_compareNames, drifted_compareNames]
  grind

theorem details_breaking {baseline live : List String} (h : ∃ n ∈ live, n ∉ baseline) :
    (compareNames (c.withPolicy .breaking) baseline live).details =
      (compareNames (c.withPolicy .symmetric) baseline live).details ++
        ["Additions are backward compatible under the 'breaking' policy"] := by
  have hadded : namesLost live baseline ≠ [] := by
    rw [ne_eq, namesLost_eq_nil_iff]
    simpa using h
  simp [compareNames, hadded, additionsLine]

theorem details_breaking_of_not_added {baseline live : List String}
    (h : ¬ ∃ n ∈ live, n ∉ baseline) :
    (compareNames (c.withPolicy .breaking) baseline live).details =
      (compareNames (c.withPolicy .symmetric) baseline live).details := by
  have hadded : namesLost live baseline = [] := by
    rw [namesLost_eq_nil_iff]
    simpa using h
  simp [compareNames, hadded]

/-- What a check finds is told differently under the two policies only where it is names. -/
theorem differByPolicy_outcome {f : Finding}
    (hf : finding (Access.fetching r fetch) c = .ok f) (hlength : CanBeLookedUp r c) :
    DifferByPolicy r fetch c (f.outcome (c.withPolicy .breaking)).result
      (f.outcome (c.withPolicy .symmetric)).result := by
  -- only a comparison of names looks at the policy
  by_cases hnames : ∃ baseline live address, f = .names baseline live address
  · obtain ⟨baseline, live, address, rfl⟩ := hnames
    have hcompares : Compares r fetch c baseline live :=
      (finding_eq_names_iff hlength).mp ⟨address, hf⟩
    refine ⟨rfl, ?_, ?_, ?_, ?_⟩
    · simp only [Finding.outcome, drifted_compareNames]
      grind
    · rw [Finding.outcome, Finding.outcome, drifted_breaking_ne_symmetric]
      refine ⟨fun h => ⟨baseline, live, hcompares, h⟩, ?_⟩
      rintro ⟨baseline', live', hcompares', h⟩
      obtain ⟨rfl, rfl⟩ := hcompares.unique hcompares'
      exact h
    · rintro ⟨baseline', live', hcompares', h⟩
      obtain ⟨rfl, rfl⟩ := hcompares.unique hcompares'
      exact details_breaking h
    · intro h
      exact details_breaking_of_not_added fun hadded => h ⟨baseline, live, hcompares, hadded⟩
  · have hcompares (baseline live : List String) : ¬ Compares r fetch c baseline live := by
      intro h
      obtain ⟨address, hnames'⟩ := (finding_eq_names_iff hlength).mpr h
      exact hnames ⟨baseline, live, address, Except.ok.inj (hf.symm.trans hnames')⟩
    simp only [not_exists] at hnames
    rw [outcome_of_ne_names hnames .breaking .symmetric]
    refine ⟨rfl, id, ?_, ?_, fun _ => rfl⟩
    · refine ⟨fun h => absurd rfl h, ?_⟩
      rintro ⟨baseline, live, h, -⟩
      exact absurd h (hcompares baseline live)
    · rintro ⟨baseline, live, h, -⟩
      exact absurd h (hcompares baseline live)

/-! ## Two meanings of an endpoint that is not reached -/

theorem outcome_of_ne_unreachable {f : Finding} (h : ∀ message status fetched,
    f ≠ .failure (.unreachable message status) fetched) (u u' : Option Unreachable) :
    f.outcome (c.withMeaning u) = f.outcome (c.withMeaning u') := by
  cases f with
  | failure e fetched =>
    cases e with
    | unreachable message status => exact absurd rfl (h message status fetched)
    | _ => rfl
  | _ => rfl

/-- The meaning shows only where the endpoint is asked and not reached. -/
theorem outcome_of_not_unreached {f : Finding}
    (hf : finding (Access.fetching r fetch) c = .ok f) (hlength : CanBeLookedUp r c)
    (h : ¬ IsUnreached r fetch c) (u u' : Option Unreachable) :
    f.outcome (c.withMeaning u) = f.outcome (c.withMeaning u') := by
  refine outcome_of_ne_unreachable (fun message status fetched hfound => h ?_) u u'
  rw [← finding_eq_unreachable_iff hlength]
  exact ⟨message, status, fetched, hfound ▸ hf⟩

theorem drifted_of_unreached {f : Finding} (hf : finding (Access.fetching r fetch) c = .ok f)
    (hlength : CanBeLookedUp r c) (h : IsUnreached r fetch c) (u : Option Unreachable) :
    (f.outcome (c.withMeaning u)).result.drifted = true ↔
      u = some .drift ∨ u = none ∧ c.family = .wsdl := by
  obtain ⟨message, status, fetched, hfound⟩ := (finding_eq_unreachable_iff hlength).mpr h
  obtain rfl : f = .failure (.unreachable message status) fetched :=
    Except.ok.inj (hf.symm.trans hfound)
  exact drifted_unreachable message status

/-! ## Two checks -/

/-- What the two policies of a check change.  A path that is too long to be looked up ends a check
under all of them alike.  Otherwise two checks that only differ in whether additions are excused
have results that differ as `DifferByPolicy` says, and two that only differ in the meaning of an
endpoint that is not reached come to the same, unless it is asked and not reached: this is then
drift where the check says so, or says nothing and watches a service description. -/
theorem checkDrift_policies (r : Files.Reader)
    (fetch : String → Except Http.FetchError Octets) (c : Check) :
    (∃ p, r.resolve c.baselinePath = .ok p ∧ r.tree.isTooLong p = true ∧ ∀ policy u,
      checkDrift (Access.fetching r fetch) ((c.withPolicy policy).withMeaning u) =
        .error (.file (.nameTooLong p))) ∨
    (∃ breaking symmetric,
      checkDrift (Access.fetching r fetch) (c.withPolicy .breaking) = .ok breaking ∧
      checkDrift (Access.fetching r fetch) (c.withPolicy .symmetric) = .ok symmetric ∧
      breaking.fetched = symmetric.fetched ∧
      DifferByPolicy r fetch c breaking.result symmetric.result) ∧
    (¬ IsUnreached r fetch c → ∀ u u',
      checkDrift (Access.fetching r fetch) (c.withMeaning u) =
        checkDrift (Access.fetching r fetch) (c.withMeaning u')) ∧
    (IsUnreached r fetch c → ∀ u, ∃ o,
      checkDrift (Access.fetching r fetch) (c.withMeaning u) = .ok o ∧
      (o.result.drifted = true ↔ u = some .drift ∨ u = none ∧ c.family = .wsdl)) := by
  by_cases hlong : ∃ p, r.resolve c.baselinePath = .ok p ∧ r.tree.isTooLong p = true
  · obtain ⟨p, hp, hlong⟩ := hlong
    exact Or.inl ⟨p, hp, hlong, fun policy u => checkDrift_of_isTooLong hp hlong⟩
  · have hlength : CanBeLookedUp r c := by
      intro p hp
      exact Bool.not_eq_true _ ▸ fun h => hlong ⟨p, hp, h⟩
    obtain ⟨f, hf⟩ : ∃ f, finding (Access.fetching r fetch) c = .ok f := by
      rcases finding_cases fetch hlength with ⟨h | h, -⟩ | ⟨_, _, _, -, -, -, h⟩ <;> exact ⟨_, h⟩
    -- what is found is the same for all the checks here, since it asks for none of their policies
    have htold (policy : Policy) (u : Option Unreachable) :
        checkDrift (Access.fetching r fetch) ((c.withPolicy policy).withMeaning u) =
          .ok (f.outcome ((c.withPolicy policy).withMeaning u)) := by
      rw [checkDrift_eq]
      exact congrArg (Except.map _) hf
    refine Or.inr ⟨⟨_, _, htold .breaking c.onUnreachable, htold .symmetric c.onUnreachable, ?_,
      differByPolicy_outcome hf hlength⟩, fun h u u' => ?_, fun h u => ?_⟩
    · cases f <;> rfl
    · refine (htold c.policy u).trans (Eq.trans ?_ (htold c.policy u').symm)
      exact congrArg Except.ok (outcome_of_not_unreached hf hlength h u u')
    · exact ⟨_, htold c.policy u, drifted_of_unreached hf hlength h u⟩

end ContractDrift.Drift
