/-
Which failures end a run of checks.

A check makes up to four calls on what it is given access to, and each of them can fail in any
way (`Raises`).  `checkDrift_eq_error_iff` says that a check is not made exactly if its first
call fails, the one that looks for the baseline; the failure of any later call becomes the one
detail of its result (`result_of_raises`).  `run_isolated` puts the checks of a run together:
the first check that is not made ends the run, and if there is none each check has the result
that it has alone.
-/
import ContractDrift.Proofs.Drift.Decision

namespace ContractDrift.Drift

variable {a : Access} {c : Check} {e : Failure}

/-! ## Calls -/

/-- A call that a check comes to fails: it looks for the baseline, and if that is a file and
there is an endpoint, it reads the baseline, resolves its path for a message schema, and
fetches the live contract when the baseline has been projected. -/
inductive Raises (a : Access) (c : Check) (e : Failure) : Prop
  | looking : a.isFile c.baselinePath = .error e → Raises a c e
  | reading {address : String} : a.isFile c.baselinePath = .ok true → HasEndpoint c address →
      a.read c.baselinePath = .error e → Raises a c e
  | resolving {address : String} {document : Text.Octets} :
      a.isFile c.baselinePath = .ok true → HasEndpoint c address →
        a.read c.baselinePath = .ok document → c.family = .message →
          a.resolve c.baselinePath = .error e → Raises a c e
  | fetching {address : String} {names : List String} : a.isFile c.baselinePath = .ok true →
      HasEndpoint c address → baselineNames a c = .ok names → a.fetch address = .error e →
        Raises a c e

/-! ## One check -/

theorem checkDrift_eq_error_iff :
    checkDrift a c = .error e ↔ a.isFile c.baselinePath = .error e := by
  unfold checkDrift
  cases hfile : a.isFile c.baselinePath with
  | error e' => simp
  | ok found =>
    cases found with
    | false => simp
    | true => cases c.address? <;> simp

theorem exists_checkDrift_iff :
    (∃ o, checkDrift a c = .ok o) ↔ ∃ found, a.isFile c.baselinePath = .ok found := by
  unfold checkDrift
  cases hfile : a.isFile c.baselinePath with
  | error e => simp
  | ok found =>
    cases found with
    | false => simp
    | true => cases c.address? <;> simp

/-- A check whose baseline is a file and that has an endpoint compares. -/
theorem checkDrift_of_hasEndpoint {address : String} (hfile : a.isFile c.baselinePath = .ok true)
    (haddress : HasEndpoint c address) : checkDrift a c = .ok (compareLive a c address) := by
  unfold checkDrift
  rw [hfile, address?_eq_some_iff.mpr haddress]

theorem name_checkDrift {o : Outcome} (h : checkDrift a c = .ok o) : o.result.name = c.name := by
  -- every way out of a check hands on its name
  unfold checkDrift at h
  cases hfile : a.isFile c.baselinePath with
  | error e => simp [hfile] at h
  | ok found =>
    cases found with
    | false =>
      simp only [hfile, Except.ok.injEq] at h
      rw [← h]
      rfl
    | true =>
      cases haddress : c.address? with
      | none =>
        simp only [hfile, haddress, Except.ok.injEq] at h
        rw [← h]
        rfl
      | some address =>
        simp only [hfile, haddress, Except.ok.injEq] at h
        rw [← h]
        exact name_compareLive a c address

/-- The result of a check that comes to no comparison, when its endpoint is not the reason. -/
theorem failed_eq (c : Check) (h : e.isUnreachable = false) :
    failed c e = ⟨c.name, true, ["Error checking " ++ c.name ++ ": " ++ e.message]⟩ := by
  cases e with
  | unreachable message status => exact absurd h (by simp [Failure.isUnreachable])
  | _ => rfl

theorem compareLive_of_baselineNames {address : String} (h : baselineNames a c = .error e) :
    (compareLive a c address).result = failed c e := by
  simp only [compareLive, h]

/-- A check that is made turns the failure of a call into its only detail. -/
theorem result_of_raises {o : Outcome} (hmade : checkDrift a c = .ok o) (h : Raises a c e)
    (he : e.isUnreachable = false) :
    o.result = ⟨c.name, true, ["Error checking " ++ c.name ++ ": " ++ e.message]⟩ := by
  suffices hfailed : o.result = failed c e by rw [hfailed, failed_eq c he]
  -- whatever step fails, its failure is what the comparison comes to
  cases h with
  | looking hlook =>
    rw [checkDrift_eq_error_iff.mpr hlook] at hmade
    exact absurd hmade (by simp)
  | reading hfile haddress hread =>
    rw [checkDrift_of_hasEndpoint hfile haddress, Except.ok.injEq] at hmade
    rw [← hmade]
    apply compareLive_of_baselineNames
    simp only [baselineNames, hread]
    rfl
  | resolving hfile haddress hread hfamily hresolve =>
    rw [checkDrift_of_hasEndpoint hfile haddress, Except.ok.injEq] at hmade
    rw [← hmade]
    apply compareLive_of_baselineNames
    simp only [baselineNames, hread, hfamily, hresolve]
    rfl
  | fetching hfile haddress hnames hfetch =>
    rw [checkDrift_of_hasEndpoint hfile haddress, Except.ok.injEq] at hmade
    rw [← hmade]
    simp only [compareLive, hnames, hfetch, Except.bind]

/-! ## Runs -/

variable {access : Nat → Access} {i : Nat} {checks : List Check} {outcomes : List Outcome}

theorem runFrom_cons_eq_ok_iff :
    runFrom access i (c :: checks) = .ok outcomes ↔
      ∃ o rest, checkDrift (access i) c = .ok o ∧ runFrom access (i + 1) checks = .ok rest ∧
        outcomes = o :: rest := by
  simp only [runFrom, bind_eq_ok_iff, pure_eq_ok_iff, exists_and_left]

theorem runFrom_cons_eq_error_iff :
    runFrom access i (c :: checks) = .error e ↔
      checkDrift (access i) c = .error e ∨
        (∃ o, checkDrift (access i) c = .ok o) ∧ runFrom access (i + 1) checks = .error e := by
  simp only [runFrom, bind_eq_error_iff, pure_ne_error, and_false, exists_false, or_false,
    exists_and_right]

/-- A run comes to its end with the outcomes of its checks, each in its place. -/
theorem runFrom_eq_ok_iff :
    runFrom access i checks = .ok outcomes ↔
      outcomes.length = checks.length ∧ ∀ k c, checks[k]? = some c →
        ∃ o, outcomes[k]? = some o ∧ checkDrift (access (i + k)) c = .ok o := by
  induction checks generalizing i outcomes with
  | nil => simp [runFrom, eq_comm]
  | cons c checks ih =>
    rw [runFrom_cons_eq_ok_iff]
    constructor
    · rintro ⟨o, rest, ho, hrest, rfl⟩
      obtain ⟨hlength, hplaces⟩ := ih.mp hrest
      refine ⟨congrArg (· + 1) hlength, fun k c' hk => ?_⟩
      cases k with
      | zero =>
        obtain rfl : c = c' := by simpa using hk
        exact ⟨o, rfl, ho⟩
      | succ k =>
        obtain ⟨o', ho', hcheck⟩ := hplaces k c' (by simpa using hk)
        exact ⟨o', by simpa using ho', by rwa [Nat.add_right_comm] at hcheck⟩
    · rintro ⟨hlength, hplaces⟩
      cases outcomes with
      | nil => simp at hlength
      | cons o rest =>
        obtain ⟨o', ho', hcheck⟩ := hplaces 0 c rfl
        obtain rfl : o = o' := by simpa using ho'
        refine ⟨o, rest, hcheck, ih.mpr ⟨by simpa using hlength, fun k c' hk => ?_⟩, rfl⟩
        obtain ⟨o', ho', hcheck'⟩ := hplaces (k + 1) c' (by simpa using hk)
        exact ⟨o', by simpa using ho', by rwa [Nat.add_right_comm]⟩

/-- A run ends with the failure of the first check that is not made. -/
theorem runFrom_eq_error_iff :
    runFrom access i checks = .error e ↔
      ∃ k c, checks[k]? = some c ∧ checkDrift (access (i + k)) c = .error e ∧
        ∀ j < k, ∀ c', checks[j]? = some c' → ∃ o, checkDrift (access (i + j)) c' = .ok o := by
  -- the number of checks made before grows by one at each step
  induction checks generalizing i with
  | nil => simp [runFrom]
  | cons c checks ih =>
    rw [runFrom_cons_eq_error_iff, ih]
    constructor
    · rintro (h | ⟨⟨o, ho⟩, k, c', hk, hcheck, hbefore⟩)
      · exact ⟨0, c, rfl, h, fun j hj => absurd hj (Nat.not_lt_zero j)⟩
      · refine ⟨k + 1, c', by simpa using hk, by rwa [Nat.add_right_comm] at hcheck, ?_⟩
        intro j hj d hd
        cases j with
        | zero =>
          obtain rfl : c = d := by simpa using hd
          exact ⟨o, ho⟩
        | succ j =>
          have := hbefore j (Nat.lt_of_succ_lt_succ hj) d (by simpa using hd)
          rwa [Nat.add_right_comm] at this
    · rintro ⟨k, c', hk, hcheck, hbefore⟩
      cases k with
      | zero =>
        obtain rfl : c = c' := by simpa using hk
        exact Or.inl hcheck
      | succ k =>
        refine Or.inr ⟨hbefore 0 (Nat.succ_pos k) c rfl, k, c', by simpa using hk,
          by rwa [Nat.add_right_comm], fun j hj d hd => ?_⟩
        have := hbefore (j + 1) (Nat.succ_lt_succ hj) d (by simpa using hd)
        rwa [Nat.add_right_comm]

/-- What a run makes of its checks: one result for each, in order and under its name, the one
that the check has alone; a check in which a call fails, other than for an endpoint that is not
reached, has drifted and says how the call failed. -/
structure IsIsolated (access : Nat → Access) (checks : List Check) (results : List Result) :
    Prop where
  length_eq : results.length = checks.length
  name_eq : ∀ (i : Nat) (c : Check) (r : Result), checks[i]? = some c →
    results[i]? = some r → r.name = c.name
  alone : ∀ (i : Nat) (c : Check) (r : Result), checks[i]? = some c → results[i]? = some r →
    ∃ o, run (fun _ => access i) [c] = .ok [o] ∧ o.result = r
  raised : ∀ (i : Nat) (c : Check) (r : Result) (e : Failure), checks[i]? = some c →
    results[i]? = some r → Raises (access i) c e → e.isUnreachable = false →
      r = ⟨c.name, true, ["Error checking " ++ c.name ++ ": " ++ e.message]⟩

theorem isIsolated_of_run (h : run access checks = .ok outcomes) (now : Moment) :
    IsIsolated access checks (reportOf now outcomes).results := by
  obtain ⟨hlength, hplaces⟩ := runFrom_eq_ok_iff.mp h
  have hmade (i : Nat) (c : Check) (r : Result) (hc : checks[i]? = some c)
      (hr : (outcomes.map (·.result))[i]? = some r) :
      ∃ o, checkDrift (access i) c = .ok o ∧ o.result = r := by
    obtain ⟨o, ho, hcheck⟩ := hplaces i c hc
    rw [Nat.zero_add] at hcheck
    rw [List.getElem?_map, ho, Option.map_some, Option.some.injEq] at hr
    exact ⟨o, hcheck, hr⟩
  refine ⟨?_, fun i c r hc hr => ?_, fun i c r hc hr => ?_, fun i c r e hc hr hraises he => ?_⟩
  · rw [reportOf, Report.ofResults, List.length_map, hlength]
  · obtain ⟨o, hcheck, rfl⟩ := hmade i c r hc hr
    exact name_checkDrift hcheck
  · obtain ⟨o, hcheck, rfl⟩ := hmade i c r hc hr
    exact ⟨o, runFrom_cons_eq_ok_iff.mpr ⟨o, [], hcheck, rfl, rfl⟩, rfl⟩
  · obtain ⟨o, hcheck, rfl⟩ := hmade i c r hc hr
    exact result_of_raises hcheck hraises he

/-- With the files of a reader only a path that is too long ends a run. -/
theorem run_of_error_cases {r : Files.Reader} {n : Http.Network}
    (h : run (fun _ => Access.of r n) checks = .error e) :
    ∃ c ∈ checks, ∃ p, r.resolve c.baselinePath = .ok p ∧ r.tree.isTooLong p = true ∧
      e = .file (.nameTooLong p) := by
  obtain ⟨k, c, hc, hcheck, -⟩ := runFrom_eq_error_iff.mp h
  obtain ⟨e', he', rfl⟩ := mapError_eq_error_iff.mp (checkDrift_eq_error_iff.mp hcheck)
  obtain ⟨p, hresolve, hlong, rfl⟩ := Files.Reader.exists?_eq_error_iff.mp he'
  exact ⟨c, List.mem_of_getElem? hc, p, hresolve, hlong, rfl⟩

/-- Which failures end a run, for files and endpoints that can fail at every call.  A run ends
early exactly if looking for a baseline fails, with the first such failure; every other failure
stays with its own check, and all checks have their results. -/
theorem run_isolated (access : Nat → Access) (checks : List Check) (now : Moment) :
    (∀ e, run access checks = .error e ↔
      ∃ i c, checks[i]? = some c ∧ (access i).isFile c.baselinePath = .error e ∧
        ∀ j < i, ∀ d, checks[j]? = some d →
          ∃ found, (access j).isFile d.baselinePath = .ok found) ∧
    ((∀ i c, checks[i]? = some c → ∃ found, (access i).isFile c.baselinePath = .ok found) →
      ∃ outcomes, run access checks = .ok outcomes ∧
        IsIsolated access checks (reportOf now outcomes).results) := by
  refine ⟨fun e => ?_, fun h => ?_⟩
  · rw [run, runFrom_eq_error_iff]
    simp only [Nat.zero_add, checkDrift_eq_error_iff, exists_checkDrift_iff]
  · cases hrun : run access checks with
    | error e =>
      obtain ⟨i, c, hc, hcheck, -⟩ := runFrom_eq_error_iff.mp hrun
      obtain ⟨found, hfound⟩ := h i c hc
      rw [Nat.zero_add, checkDrift_eq_error_iff, hfound] at hcheck
      exact absurd hcheck (by simp)
    | ok outcomes => exact ⟨outcomes, rfl, isIsolated_of_run hrun now⟩

end ContractDrift.Drift
