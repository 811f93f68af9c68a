/-
Which addresses a run asks for.

A check is due to ask for an address when it has one, its baseline is a file and the content of
that file is projected to names (`IsDue`, computed by `due?`).  Endpoints may answer by what they
have been asked before, so a run is told here as a program that keeps the addresses that it has
asked for (`runAsking`), also when it ends early.  `runAsking_requests` states that these are the
addresses of the checks that are due, each once and in the order of the checks, up to the first
check whose path is too long to be looked up.

Design notes: what a check is given access to is a function of the addresses asked for so far.  A
program that asks is no second way to make a check: step by step it is `checkDrift` with the access
that the check finds (`checkAsking_run`), so a whole run is `run` (`runAsking_run`).
-/
import ContractDrift.Proofs.Drift.Policies

namespace ContractDrift.Drift

open ContractDrift.Text (Octets)

/-! ## Programs that ask -/

/-- A program that asks endpoints, and may end early; the addresses asked for are kept, oldest
first. -/
abbrev Asking := ExceptT Failure (StateM (List String))

/-- Asks for an address. -/
def ask (access : List String → Access) (address : String) : Asking Octets := do
  let asked ← get
  set (asked ++ [address])
  MonadExcept.ofExcept ((access asked).fetch address)

/-- Makes a check.  Whatever fails after the test that the baseline exists becomes a result. -/
def checkAsking (access : List String → Access) (c : Check) : Asking Result := do
  let files := access (← get)
  if !(← MonadExcept.ofExcept (files.isFile c.baselinePath)) then
    return missingBaseline c
  match c.address? with
  | none => return noEndpoint c
  | some address =>
    tryCatch (do
      let baseline ← MonadExcept.ofExcept (baselineNames files c)
      let answer ← ask access address
      let live ← MonadExcept.ofExcept (liveNames c.family answer)
      return compareNames c baseline live) fun e => return failed c e

/-- Makes the checks one after the other. -/
def runAsking (access : List String → Access) (checks : List Check) : Asking (List Result) :=
  checks.mapM (checkAsking access)

variable {access : List String → Access} {asked : List String} {c : Check}

theorem ofExcept_run {α : Type} (x : Except Failure α) :
    (MonadExcept.ofExcept x : Asking α).run.run asked = (x, asked) := by
  cases x <;> rfl

theorem bind_run {α β : Type} (x : Asking α) (f : α → Asking β) :
    (x >>= f).run.run asked =
      match x.run.run asked with
      | (.ok v, asked') => (f v).run.run asked'
      | (.error e, asked') => (.error e, asked') := by
  change (ExceptT.bindCont f (x.run.run asked).1).run (x.run.run asked).2 = _
  rcases x.run.run asked with ⟨e | v, asked'⟩ <;> rfl

theorem tryCatch_run {α : Type} (x : Asking α) (handle : Failure → Asking α) :
    (tryCatch x handle).run.run asked =
      match x.run.run asked with
      | (.ok v, asked') => (.ok v, asked')
      | (.error e, asked') => (handle e).run.run asked' := by
  simp only [tryCatch, tryCatchThe, MonadExceptOf.tryCatch, ExceptT.tryCatch, ExceptT.run,
    ExceptT.mk, StateT.run, bind, StateT.bind]
  rcases x asked with ⟨e | v, asked'⟩ <;> rfl

theorem pure_run {α : Type} (v : α) : (pure v : Asking α).run.run asked = (.ok v, asked) := rfl

theorem get_run : (get : Asking (List String)).run.run asked = (.ok asked, asked) := rfl

theorem ask_run (address : String) :
    (ask access address).run.run asked = ((access asked).fetch address, asked ++ [address]) := by
  rw [ask, bind_run, get_run]
  exact ofExcept_run _

/-- A check that asks is the check that is made with what it finds, and it asks for the address
that is fetched. -/
theorem checkAsking_run :
    (checkAsking access c).run.run asked =
      match checkDrift (access asked) c with
      | .error e => (.error e, asked)
      | .ok o => (.ok o.result, asked ++ o.fetched.toList) := by
  have hnone : asked ++ (none : Option String).toList = asked := List.append_nil asked
  -- both go through the same steps, and only the last of them asks
  rw [checkAsking, bind_run, get_run, checkDrift]
  simp only [bind_run, ofExcept_run]
  cases (access asked).isFile c.baselinePath with
  | error e => rfl
  | ok found =>
    cases found with
    | false =>
      simp only [hnone]
      rfl
    | true =>
      cases c.address? with
      | none =>
        simp only [hnone]
        rfl
      | some address =>
        simp only [Bool.not_true, Bool.false_eq_true, if_false, bind_run, tryCatch_run,
          ofExcept_run, ask_run, compareLive]
        cases baselineNames (access asked) c with
        | error e =>
          simp only [hnone]
          rfl
        | ok baseline =>
          dsimp only
          cases (access asked).fetch address with
          | error e => rfl
          | ok answer =>
            dsimp only [Except.bind]
            cases liveNames c.family answer <;> rfl

/-! ## Runs that ask -/

/-- The addresses asked for when the checks before a position have been made, after those that were
asked for at the start. -/
def askedBefore (access : List String → Access) :
    (asked : List String) → List Check → (position : Nat) → List String
  | asked, [], _ => asked
  | asked, _ :: _, 0 => asked
  | asked, c :: checks, k + 1 =>
    askedBefore access (asked ++ fetchedIn (madeFrom (fun _ => access asked) 0 [c])) checks k

theorem askedBefore_zero (access : List String → Access) (asked : List String)
    (checks : List Check) : askedBefore access asked checks 0 = asked := by
  cases checks <;> rfl

theorem fetchedIn_cons (o : Outcome) (outcomes : List Outcome) :
    fetchedIn (o :: outcomes) = o.fetched.toList ++ fetchedIn outcomes := by
  rw [fetchedIn, List.filterMap_cons]
  cases o.fetched <;> rfl

/-- A run that asks is the run with what each check finds, and it asks for the addresses that are
fetched. -/
theorem runAsking_run {accessAt : Nat → Access} {i : Nat} {checks : List Check}
    (h : ∀ k, accessAt (i + k) = access (askedBefore access asked checks k)) :
    (runAsking access checks).run.run asked =
      ((runFrom accessAt i checks).map (List.map (·.result)),
        asked ++ fetchedIn (madeFrom accessAt i checks)) := by
  induction checks generalizing asked i with
  | nil =>
    rw [runAsking, List.mapM_nil, pure_run]
    exact congrArg (Prod.mk _) (List.append_nil asked).symm
  | cons c checks ih =>
    have hhere : accessAt i = access asked := by
      have hzero := h 0
      rwa [Nat.add_zero, askedBefore_zero] at hzero
    rw [runAsking, List.mapM_cons, bind_run, checkAsking_run, runFrom, madeFrom, hhere]
    cases hcheck : checkDrift (access asked) c with
    | error e => exact congrArg (Prod.mk _) (List.append_nil asked).symm
    | ok o =>
      -- the other checks find what has been asked for by then
      have hfetched : fetchedIn (madeFrom (fun _ => access asked) 0 [c]) = o.fetched.toList := by
        simp only [madeFrom, hcheck, fetchedIn_cons]
        exact List.append_nil _
      have hrest (k : Nat) : accessAt (i + 1 + k) =
          access (askedBefore access (asked ++ o.fetched.toList) checks k) := by
        rw [← hfetched, Nat.add_right_comm]
        exact h (k + 1)
      have hrun := ih hrest
      rw [runAsking] at hrun
      dsimp only
      rw [bind_run, hrun, fetchedIn_cons, ← List.append_assoc]
      cases runFrom accessAt (i + 1) checks <;> rfl

/-! ## Checks that are due to ask -/

variable {r : Files.Reader} {fetch : String → Except Http.FetchError Octets}

/-- A check is due to ask for its address: it has one, its baseline is a file, and the content of
the file is projected to names. -/
def IsDue (r : Files.Reader) (c : Check) (address : String) : Prop :=
  HasEndpoint c address ∧
    ∃ p document names, IsBaseline r c p document ∧ projectBaseline c p document = .ok names

/-- The address that a check is due to ask for, if there is one. -/
def due? (r : Files.Reader) (c : Check) : Option String := do
  let address ← c.address?
  let p ← (r.resolve c.baselinePath).toOption
  let document ← r.tree.file? p
  let _ ← (projectBaseline c p document).toOption
  return address

theorem due?_eq_some_iff {address : String} : due? r c = some address ↔ IsDue r c address := by
  simp only [due?, Option.bind_eq_bind, Option.bind_eq_some_iff, address?_eq_some_iff,
    toOption_eq_some_iff, Option.pure_def, Option.some.injEq, IsDue, IsBaseline]
  constructor
  · rintro ⟨address', haddress, p, hp, document, hdocument, names, hnames, rfl⟩
    exact ⟨haddress, p, document, names, ⟨hp, hdocument⟩, hnames⟩
  · rintro ⟨haddress, p, document, names, ⟨hp, hdocument⟩, hnames⟩
    exact ⟨address, haddress, p, hp, document, hdocument, names, hnames, rfl⟩

theorem due?_eq_none (h : ∀ address, ¬ IsDue r c address) : due? r c = none := by
  rw [Option.eq_none_iff_forall_ne_some]
  exact fun address haddress => h address (due?_eq_some_iff.mp haddress)

/-- A check asks for the address that it is due to ask for, whatever is answered. -/
theorem exists_checkDrift_due (fetch : String → Except Http.FetchError Octets)
    (hlength : CanBeLookedUp r c) :
    ∃ o, checkDrift (Access.fetching r fetch) c = .ok o ∧ o.fetched = due? r c := by
  rw [checkDrift_eq]
  rcases finding_cases fetch hlength with ⟨hfinding, hnone⟩ |
    ⟨address, p, document, haddress, hp, hshort, hfinding⟩
  · have hdue : due? r c = none :=
      due?_eq_none fun address ⟨haddress, p, document, _, hp, _⟩ =>
        hnone address p document haddress hp
    rcases hfinding with h | h <;> exact ⟨_, by rw [h]; rfl, hdue.symm⟩
  · refine ⟨_, by rw [hfinding]; rfl, ?_⟩
    rw [findingLive_fetching hp hshort]
    cases hnames : projectBaseline c p document with
    | error e =>
      -- a baseline that is refused leaves nothing to ask for
      refine (due?_eq_none fun address' h => ?_).symm
      obtain ⟨-, p', document', names, hp', hnames'⟩ := h
      obtain ⟨rfl, rfl⟩ := hp.unique hp'
      rw [hnames] at hnames'
      cases hnames'
    | ok names =>
      rw [due?_eq_some_iff.mpr ⟨haddress, p, document, names, hp, hnames⟩]
      cases fetch address with
      | error e => rfl
      | ok answer =>
        dsimp only
        cases liveNames c.family answer <;> rfl

/-- Checks whose paths can be looked up are all made, and ask for the addresses that they are due to
ask for; a run goes on with the checks behind them. -/
theorem exists_runFrom_due {accessAt : Nat → Access}
    (haccess : ∀ k, ∃ fetch, accessAt k = Access.fetching r fetch) {checks : List Check}
    (hlength : ∀ c ∈ checks, CanBeLookedUp r c) (i : Nat) :
    ∃ outcomes, fetchedIn outcomes = checks.filterMap (due? r) ∧ ∀ rest,
      runFrom accessAt i (checks ++ rest) =
        (runFrom accessAt (i + checks.length) rest).map (outcomes ++ ·) ∧
      madeFrom accessAt i (checks ++ rest) =
        outcomes ++ madeFrom accessAt (i + checks.length) rest := by
  -- no check fails, so each adds its outcome and its request, whatever checks follow
  induction checks generalizing i with
  | nil =>
    refine ⟨[], rfl, fun rest => ⟨?_, rfl⟩⟩
    cases h : runFrom accessAt i rest <;> simp [h, Except.map]
  | cons c checks ih =>
    obtain ⟨fetch, hfetch⟩ := haccess i
    obtain ⟨o, ho, hdue⟩ := exists_checkDrift_due fetch (hlength c List.mem_cons_self)
    obtain ⟨outcomes, hfetched, hrest⟩ :=
      ih (fun d hd => hlength d (List.mem_cons_of_mem c hd)) (i + 1)
    refine ⟨o :: outcomes, ?_, fun rest => ⟨?_, ?_⟩⟩
    · rw [fetchedIn, List.filterMap_cons, List.filterMap_cons, hdue, ← hfetched]
      rfl
    · rw [List.cons_append, runFrom, hfetch, ho, (hrest rest).1, List.length_cons,
        Nat.add_right_comm, Nat.add_assoc i]
      cases runFrom accessAt (i + (checks.length + 1)) rest <;> rfl
    · rw [List.cons_append, madeFrom, hfetch, ho, List.length_cons, Nat.add_comm checks.length,
        ← Nat.add_assoc, List.cons_append, ← (hrest rest).2]

/-- Which addresses a run asks for, with the files of a reader and endpoints that answer in any way,
also by what they have been asked before.  If the path of each check can be looked up, the run comes
to its end and has asked for the addresses of the checks that are due, each once, in the order of
the checks, and for no other.  Otherwise it ends at the first check whose path is too long, and has
asked for the addresses of the checks before it that are due.  These are the addresses fetched in
the run in which each check finds what is answered to it. -/
theorem runAsking_requests (r : Files.Reader)
    (endpoints : List String → String → Except Http.FetchError Octets) (checks : List Check) :
    let access (asked : List String) := Access.fetching r (endpoints asked)
    ((∀ c ∈ checks, CanBeLookedUp r c) → ∃ results,
      (runAsking access checks).run.run [] = (.ok results, checks.filterMap (due? r))) ∧
    (∀ before c after p, checks = before ++ c :: after →
      (∀ d ∈ before, CanBeLookedUp r d) → r.resolve c.baselinePath = .ok p →
      r.tree.isTooLong p = true →
        (runAsking access checks).run.run [] =
          (.error (.file (.nameTooLong p)), before.filterMap (due? r))) ∧
    ∃ accessAt : Nat → Access, (∀ k, ∃ asked, accessAt k = access asked) ∧
      (runAsking access checks).run.run [] =
        ((run accessAt checks).map (List.map (·.result)),
          fetchedIn (madeFrom accessAt 0 checks)) := by
  intro access
  -- each check has the access that belongs to what was asked before it
  obtain ⟨accessAt, haccess, hrun⟩ : ∃ accessAt : Nat → Access,
      (∀ k, ∃ asked, accessAt k = access asked) ∧
      (runAsking access checks).run.run [] =
        ((run accessAt checks).map (List.map (·.result)),
          fetchedIn (madeFrom accessAt 0 checks)) := by
    refine ⟨fun k => access (askedBefore access [] checks k), fun k => ⟨_, rfl⟩, ?_⟩
    exact runAsking_run fun k => by rw [Nat.zero_add]
  have hfetching (k : Nat) : ∃ fetch, accessAt k = Access.fetching r fetch := by
    obtain ⟨asked, h⟩ := haccess k
    exact ⟨endpoints asked, h⟩
  refine ⟨fun hlength => ?_, fun before c after p hchecks hlength hp hlong => ?_,
    accessAt, haccess, hrun⟩
  · obtain ⟨outcomes, hfetched, hrest⟩ := exists_runFrom_due hfetching hlength 0
    obtain ⟨hresults, hmade⟩ := hrest []
    rw [List.append_nil] at hresults hmade
    refine ⟨outcomes.map (·.result), ?_⟩
    rw [hrun, run, hresults, hmade, ← hfetched, runFrom, madeFrom, List.append_nil]
    simp only [Except.map, List.append_nil]
  · obtain ⟨outcomes, hfetched, hrest⟩ := exists_runFrom_due hfetching hlength 0
    obtain ⟨hresults, hmade⟩ := hrest (c :: after)
    -- the first check whose path is too long ends the run
    obtain ⟨fetch, hfetch⟩ := hfetching (0 + before.length)
    have hcheck : checkDrift (Access.fetching r fetch) c = .error (.file (.nameTooLong p)) :=
      checkDrift_of_isTooLong hp hlong
    rw [hrun, run, hchecks, hresults, hmade, ← hfetched, runFrom, madeFrom, hfetch, hcheck,
      List.append_nil]
    rfl

end ContractDrift.Drift
