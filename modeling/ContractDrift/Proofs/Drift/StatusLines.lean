/-
The lines of a summary that tell results.

A summary has one line with a status for each result and, in front of the details, blanks that
keep them from looking like one.  A detail that ends a line goes on in front of the next, and there
it can look like a status line: it forges one (`Forges`).  Details hand on what a check is told
(`Finding.told`): names that one side has and the other lacks, wordings of failures, and paths.
`run_statusLines` says which status lines the summary of a run has, and that they are those of its
results exactly if nothing that its checks are told forges one.
-/
import ContractDrift.Proofs.Drift.Policies
import ContractDrift.Proofs.Drift.Unchanged
import ContractDrift.Proofs.Json.WrittenValue
import ContractDrift.Proofs.Text.Lines
import ContractDrift.Proofs.Text.Split

namespace ContractDrift.Drift

open ContractDrift.Text (EndsLines IsInLine IsPrinted linesOf)

variable {ends : Char → Bool}

/-! ## Status lines -/

/-- Whether a line says that something has drifted. -/
def isDriftLine (line : String) : Bool := Text.startsWith "[DRIFT] ".toList line.toList

/-- Whether a line says that something is as it was. -/
def isCleanLine (line : String) : Bool := Text.startsWith "[   OK] ".toList line.toList

/-- Whether a line starts with a status. -/
def isStatusLine (line : String) : Bool := isDriftLine line || isCleanLine line

/-- The lines of a text that start with a status. -/
def statusLines (ends : Char → Bool) (text : String) : List String :=
  (linesOf ends text).filter isStatusLine

/-- The line that tells a result: its status and its name. -/
def statusLine (r : Result) : String := (if r.drifted then "[DRIFT] " else "[   OK] ") ++ r.name

/-- The lines after the first that start with a status. -/
def forgedLines (ends : Char → Bool) (text : String) : List String :=
  (linesOf ends text).tail.filter isStatusLine

/-- A text looks like a status line after it has ended a line. -/
def Forges (ends : Char → Bool) (text : String) : Prop :=
  ∃ line ∈ (linesOf ends text).tail, isStatusLine line = true

theorem forgedLines_eq_nil_iff {text : String} :
    forgedLines ends text = [] ↔ ¬ Forges ends text := by
  simp [forgedLines, Forges]

theorem head?_of_isStatusLine {line : String} (h : isStatusLine line = true) :
    line.toList.head? = some '[' := by
  rw [isStatusLine, Bool.or_eq_true, isDriftLine, isCleanLine, Text.startsWith_iff,
    Text.startsWith_iff] at h
  rcases h with ⟨rest, hrest⟩ | ⟨rest, hrest⟩
  · rw [← hrest]
    rfl
  · rw [← hrest]
    rfl

theorem isStatusLine_of_head {c : Char} {line : String} (hline : line.toList.head? = some c)
    (hc : c ≠ '[') : isStatusLine line = false := by
  rw [Bool.eq_false_iff]
  intro h
  rw [head?_of_isStatusLine h, Option.some.injEq] at hline
  exact hc hline.symm

theorem isDriftLine_statusLine (r : Result) : isDriftLine (statusLine r) = r.drifted := by
  rw [Bool.eq_iff_iff, isDriftLine, Text.startsWith_iff, statusLine]
  cases r.drifted with
  | true => simp
  | false => simp

theorem isStatusLine_statusLine (r : Result) : isStatusLine (statusLine r) = true := by
  rw [isStatusLine, isDriftLine_statusLine, Bool.or_eq_true]
  cases hdrifted : r.drifted with
  | true => exact .inl rfl
  | false =>
    right
    rw [isCleanLine, Text.startsWith_iff, statusLine, hdrifted]
    simp

/-- A character that no status has ends what can be taken for one. -/
theorem startsWith_append_iff {mark line post : List Char} {c : Char} (hc : c ∉ mark) :
    Text.startsWith mark (line ++ c :: post) = Text.startsWith mark line := by
  rw [Bool.eq_iff_iff, Text.startsWith_iff, Text.startsWith_iff]
  constructor
  · intro h
    rcases List.prefix_or_prefix_of_prefix h (List.prefix_append line (c :: post)) with h' | h'
    · exact h'
    · -- a mark that goes on behind the line has the character
      obtain ⟨rest, rfl⟩ := h'
      rw [List.prefix_append_right_inj] at h
      cases rest with
      | nil => simp
      | cons d rest =>
        obtain rfl := (List.cons_prefix_cons.mp h).1
        exact absurd (List.mem_append_right line List.mem_cons_self) hc
  · exact fun h => h.trans (List.prefix_append line _)

/-! ## Forging -/

theorem not_forges_of_isInLine {text : String} (h : IsInLine ends text) : ¬ Forges ends text := by
  rintro ⟨line, hline, -⟩
  rw [Text.linesOf_of_isInLine h] at hline
  exact absurd hline List.not_mem_nil

/-- What stands in front of a text without ending a line has no part in forging. -/
theorem forges_append_left {pre : String} (h : IsInLine ends pre) (text : String) :
    Forges ends (pre ++ text) ↔ Forges ends text := by
  obtain ⟨line, rest, htext, hpre⟩ := Text.linesOf_append_left h text
  rw [Forges, Forges, htext, hpre]
  rfl

/-- Neither has what stands behind it, if it starts with a character that no status has. -/
theorem forges_append_right {post : String} {c : Char} {cs : List Char}
    (hpost : post.toList = c :: cs) (hdrift : c ∉ "[DRIFT] ".toList)
    (hclean : c ∉ "[   OK] ".toList) (h : IsInLine ends post) (text : String) :
    Forges ends (text ++ post) ↔ Forges ends text := by
  obtain ⟨rest, line, htext, hlines⟩ := Text.linesOf_append_right h text
  have hlast : isStatusLine (line ++ post) = isStatusLine line := by
    rw [isStatusLine, isStatusLine, isDriftLine, isCleanLine, String.toList_append, hpost,
      startsWith_append_iff hdrift, startsWith_append_iff hclean]
    rfl
  rw [Forges, Forges, htext, hlines]
  cases rest with
  | nil => simp
  | cons first rest => simp [hlast]

/-! ## The lines of a summary -/

theorem statusLines_of_isInLine {text : String} (h : IsInLine ends text) :
    statusLines ends text = if isStatusLine text then [text] else [] := by
  rw [statusLines, Text.linesOf_of_isInLine h, List.filter_singleton, Bool.cond_eq_ite]

/-- A line of printed characters that starts with no bracket is no status line. -/
theorem statusLines_of_isPrinted {text : String} {c : Char} (hends : EndsLines ends)
    (h : IsPrinted text) (hhead : text.toList.head? = some c) (hc : c ≠ '[') :
    statusLines ends text = [] := by
  rw [statusLines_of_isInLine (h.isInLine hends), isStatusLine_of_head hhead hc]
  rfl

theorem statusLines_statusLine (hends : EndsLines ends) {r : Result}
    (hname : IsInLine ends r.name) : statusLines ends (statusLine r) = [statusLine r] := by
  have hline : IsInLine ends (statusLine r) := by
    refine Text.isInLine_append ?_ hname
    split
    · exact IsPrinted.isInLine (by decide) hends
    · exact IsPrinted.isInLine (by decide) hends
  rw [statusLines_of_isInLine hline, if_pos (isStatusLine_statusLine r)]

/-- The blanks in front of a detail keep its first line from being a status line. -/
theorem statusLines_detail (hends : EndsLines ends) (detail : String) :
    statusLines ends ("        " ++ detail) = forgedLines ends detail := by
  have hblanks : IsInLine ends "        " := IsPrinted.isInLine (by decide) hends
  obtain ⟨line, rest, hdetail, hlines⟩ := Text.linesOf_append_left hblanks detail
  have hfirst : isStatusLine ("        " ++ line) = false :=
    isStatusLine_of_head (c := ' ') (by simp) (by decide)
  rw [statusLines, hlines, forgedLines, hdetail, List.filter_cons_of_neg (by simp [hfirst]),
    List.tail_cons]

theorem resultLines_eq (r : Result) :
    Report.resultLines r = statusLine r :: r.details.map fun d => "        " ++ d := rfl

theorem statusLines_resultLines (hends : EndsLines ends) {r : Result}
    (hname : IsInLine ends r.name) :
    (Report.resultLines r).flatMap (statusLines ends) =
      statusLine r :: r.details.flatMap (forgedLines ends) := by
  rw [resultLines_eq, List.flatMap_cons, statusLines_statusLine hends hname, List.flatMap_map]
  simp only [statusLines_detail hends]
  rfl

theorem isPrinted_toString (n : Nat) : IsPrinted (toString n) := by
  intro c hc
  rw [Nat.toString_eq_repr, Nat.toList_repr] at hc
  have hdigit := Nat.isDigit_of_mem_toDigits (by decide) (by decide) hc
  obtain ⟨hleast, hmost⟩ := Char.isDigit_iff_toNat.mp hdigit
  exact ⟨Nat.le_trans (by decide) hleast, Nat.lt_of_le_of_lt hmost (by decide)⟩

/-- The status lines of a summary are those of its results, each with those that its details
forge. -/
theorem statusLines_summaryText (hends : EndsLines ends) {r : Report}
    (hnames : ∀ x ∈ r.results, IsInLine ends x.name) :
    statusLines ends r.summaryText =
      r.results.flatMap fun x => statusLine x :: x.details.flatMap (forgedLines ends) := by
  -- what stands around the results starts with no bracket
  have hrule : statusLines ends (Text.repeated "-" Report.summaryWidth) = [] :=
    statusLines_of_isPrinted hends (c := '-') (by decide +kernel) (by decide +kernel) (by decide)
  have htitle : statusLines ends "Drift Detection Summary" = [] :=
    statusLines_of_isPrinted hends (c := 'D') (by decide) (by decide) (by decide)
  have htotal : statusLines ends
      s!"total={r.summary.total} drifted={r.summary.drifted} clean={r.summary.clean}" = [] := by
    have hprinted : IsPrinted
        s!"total={r.summary.total} drifted={r.summary.drifted} clean={r.summary.clean}" :=
      .append (.append (.append (.append (.append (by decide) (isPrinted_toString _)) (by decide))
        (isPrinted_toString _)) (by decide)) (isPrinted_toString _)
    refine statusLines_of_isPrinted hends (c := 't') hprinted ?_ (by decide)
    simp only [String.toList_append, List.append_assoc]
    rfl
  have hresults : (r.results.flatMap Report.resultLines).flatMap (statusLines ends) =
      r.results.flatMap fun x => statusLine x :: x.details.flatMap (forgedLines ends) := by
    rw [List.flatMap_assoc]
    refine List.flatMap_congr fun x hx => ?_
    exact statusLines_resultLines hends (hnames x hx)
  unfold Report.summaryText
  dsimp only
  rw [statusLines, Text.linesOf_intercalate hends (by simp), List.filter_flatMap]
  show List.flatMap (statusLines ends) _ = _
  rw [List.flatMap_append, List.flatMap_append, hresults]
  simp only [List.flatMap_cons, List.flatMap_nil, hrule, htitle, htotal, List.append_nil,
    List.nil_append]

theorem length_flatMap_cons {α β : Type} (f : α → β) (g : α → List β) (xs : List α) :
    (xs.flatMap fun x => f x :: g x).length = xs.length + (xs.flatMap g).length := by
  induction xs with
  | nil => rfl
  | cons x xs ih =>
    simp only [List.flatMap_cons, List.length_append, List.length_cons, ih]
    omega

/-- What stands behind the members of a list is nothing if they are all there is. -/
theorem flatMap_cons_eq_map_iff {α β : Type} (f : α → β) (g : α → List β) (xs : List α) :
    (xs.flatMap fun x => f x :: g x) = xs.map f ↔ ∀ x ∈ xs, g x = [] := by
  constructor
  · -- the lists have the same length, so nothing is left for the other members
    intro h
    have hlength := congrArg List.length h
    rw [length_flatMap_cons, List.length_map, Nat.add_eq_left, List.length_eq_zero_iff] at hlength
    exact List.flatMap_eq_nil_iff.mp hlength
  · intro h
    rw [List.map_eq_flatMap]
    exact List.flatMap_congr fun x hx => by rw [h x hx]

theorem countP_statusLines (forged : Result → List String) (xs : List Result) :
    (xs.flatMap fun x => statusLine x :: forged x).countP isDriftLine =
      (xs.filter (·.drifted)).length + (xs.flatMap forged).countP isDriftLine := by
  induction xs with
  | nil => rfl
  | cons x xs ih =>
    rw [List.flatMap_cons, List.flatMap_cons, List.countP_append, List.countP_append, ih,
      List.countP_cons, isDriftLine_statusLine, List.filter_cons]
    split
    · rw [List.length_cons]
      omega
    · omega

/-! ## What a check is told -/

/-- What a finding hands on to the details of its result: the path of a baseline, the wording of a
failure, and the names that only one side has. -/
def Finding.told (c : Check) : Finding → List String
  | noBaseline => [c.baselinePath]
  | noEndpoint => []
  | failure e _ => [e.message]
  | names baseline live _ => namesLost baseline live ++ namesLost live baseline

theorem Family.isPrinted_kind (f : Family) : IsPrinted f.kind := by
  cases f <;> decide

theorem forges_removedLine (hends : EndsLines ends) (f : Family) (name : String) :
    Forges ends (f.removedLine name) ↔ Forges ends name := by
  cases f with
  | wsdl => exact forges_append_left (IsPrinted.isInLine (by decide) hends) name
  | message => exact forges_append_left (IsPrinted.isInLine (by decide) hends) name

theorem forges_addedLine (hends : EndsLines ends) (f : Family) (name : String) :
    Forges ends (f.addedLine name) ↔ Forges ends name := by
  cases f with
  | wsdl => exact forges_append_left (IsPrinted.isInLine (by decide) hends) name
  | message => exact forges_append_left (IsPrinted.isInLine (by decide) hends) name

theorem forges_compareNames (hends : EndsLines ends) (c : Check) (baseline live : List String) :
    (∃ d ∈ (compareNames c baseline live).details, Forges ends d) ↔
      ∃ s ∈ namesLost baseline live ++ namesLost live baseline, Forges ends s := by
  have hmatch : ¬ Forges ends c.family.matchLine :=
    not_forges_of_isInLine (IsPrinted.isInLine (by cases c.family <;> decide) hends)
  have hadditions : ¬ Forges ends additionsLine :=
    not_forges_of_isInLine (IsPrinted.isInLine (by decide) hends)
  -- the line that closes the details is one of two fixed ones
  have hclosing (p q : Prop) [Decidable p] [Decidable q] :
      ¬ ∃ d ∈ (if p then [c.family.matchLine] else if q then [additionsLine] else []),
        Forges ends d := by
    split
    · simpa using hmatch
    · split
      · simpa using hadditions
      · simp
  unfold compareNames
  simp only [List.mem_append, or_and_right, exists_or, List.mem_map, exists_exists_and_eq_and,
    forges_removedLine hends, forges_addedLine hends, hclosing, or_false]

/-- What is told behind a name and the words around it. -/
theorem forges_behind (hends : EndsLines ends) {pre name mid : String} (hpre : IsPrinted pre)
    (hname : IsInLine ends name) (hmid : IsPrinted mid) (text : String) :
    Forges ends (pre ++ name ++ mid ++ text) ↔ Forges ends text :=
  forges_append_left (Text.isInLine_append (Text.isInLine_append (hpre.isInLine hends) hname)
    (hmid.isInLine hends)) text

theorem forges_unreachableResult (hends : EndsLines ends) (c : Check) (message : String) :
    (∃ d ∈ (unreachableResult c message).details, Forges ends d) ↔
      ∃ s ∈ [message], Forges ends s := by
  have hkind : IsInLine ends c.family.kind := c.family.isPrinted_kind.isInLine hends
  simp only [unreachableResult, List.mem_singleton, exists_eq_left]
  cases c.unreachable with
  | drift =>
    simp only [List.mem_singleton, exists_eq_left]
    exact forges_behind hends (by decide) hkind (by decide) message
  | advisory =>
    simp only [List.mem_singleton, exists_eq_left]
    -- no status has the bracket that closes the message
    rw [forges_append_right (c := ')') rfl (by decide) (by decide)
      (IsPrinted.isInLine (by decide) hends)]
    exact forges_behind hends (by decide) hkind (by decide) message

/-- The details of a result forge exactly what the check has been told. -/
theorem forges_details_iff (hends : EndsLines ends) {c : Check} (hname : IsInLine ends c.name)
    (f : Finding) :
    (∃ d ∈ (f.outcome c).result.details, Forges ends d) ↔ ∃ s ∈ f.told c, Forges ends s := by
  -- the words around what is told end no line
  have hprinted {text : String} (h : IsPrinted text) : IsInLine ends text := h.isInLine hends
  cases f with
  | noBaseline =>
    simp only [Finding.outcome, missingBaseline, Finding.told, List.mem_singleton,
      exists_eq_left]
    exact forges_append_left (hprinted (by decide)) _
  | noEndpoint =>
    have hline : IsInLine ends
        ("No live endpoint configured for " ++ c.name ++ ", skipping live fetch") :=
      Text.isInLine_append (Text.isInLine_append (hprinted (by decide)) hname)
        (hprinted (by decide))
    simpa [Finding.outcome, Drift.noEndpoint, Finding.told] using not_forges_of_isInLine hline
  | names baseline live address => exact forges_compareNames hends c baseline live
  | failure e fetched =>
    cases e with
    | unreachable m status => exact forges_unreachableResult hends c m
    | _ =>
      simp only [Finding.outcome, failed, Finding.told, List.mem_singleton, exists_eq_left]
      exact forges_behind hends (by decide) hname (by decide) _

/-! ## Runs -/

variable {access : Nat → Access} {checks : List Check} {outcomes : List Outcome}

theorem names_of_run (hrun : run access checks = .ok outcomes) :
    outcomes.map (·.result.name) = checks.map (·.name) := by
  obtain ⟨hlength, hplaces⟩ := runFrom_eq_ok_iff.mp hrun
  refine List.ext_getElem? fun i => ?_
  rw [List.getElem?_map, List.getElem?_map]
  cases hc : checks[i]? with
  | none =>
    rw [List.getElem?_eq_none_iff, ← hlength] at hc
    rw [List.getElem?_eq_none hc]
    rfl
  | some c =>
    obtain ⟨o, ho, hcheck⟩ := hplaces i c hc
    rw [ho, Option.map_some, Option.map_some, name_checkDrift hcheck]

/-- The results of a run are those of what its checks find. -/
theorem forall_result_iff (hrun : run access checks = .ok outcomes) {P : Result → Prop} :
    (∀ o ∈ outcomes, P o.result) ↔
      ∀ i c f, checks[i]? = some c → finding (access i) c = .ok f →
        P (f.outcome c).result := by
  obtain ⟨hlength, hplaces⟩ := runFrom_eq_ok_iff.mp hrun
  simp only [Nat.zero_add, checkDrift_eq] at hplaces
  constructor
  · intro h i c f hc hf
    obtain ⟨o, ho, hcheck⟩ := hplaces i c hc
    rw [hf] at hcheck
    obtain rfl : f.outcome c = o := Except.ok.inj hcheck
    exact h _ (List.mem_of_getElem? ho)
  · intro h o ho
    obtain ⟨i, hi⟩ := List.mem_iff_getElem?.mp ho
    obtain ⟨c, hc⟩ : ∃ c, checks[i]? = some c := by
      obtain ⟨hbound, -⟩ := List.getElem?_eq_some_iff.mp hi
      exact ⟨_, List.getElem?_eq_getElem (hlength ▸ hbound)⟩
    obtain ⟨o', ho', hcheck⟩ := hplaces i c hc
    obtain rfl : o = o' := Option.some.inj (hi.symm.trans ho')
    cases hf : finding (access i) c with
    | error e =>
      rw [hf] at hcheck
      exact absurd hcheck (by simp [Except.map])
    | ok f =>
      rw [hf] at hcheck
      obtain rfl : f.outcome c = o := Except.ok.inj hcheck
      exact h i c f hc hf

/-- The status lines of the summary of a run, for files and endpoints that can be anything.  There
is one for each check, in order, with its status and its name, and behind it stand those that its
details forge; nothing is forged exactly if nothing that a check is told forges.  So the lines that
tell of drift are as many as the results that have drifted and what is forged beside them. -/
theorem run_statusLines (hends : EndsLines ends) (hnames : ∀ c ∈ checks, IsInLine ends c.name)
    (hrun : run access checks = .ok outcomes) (now : Moment) :
    let report := reportOf now outcomes
    let forged := fun x : Result => x.details.flatMap (forgedLines ends)
    report.results.map (·.name) = checks.map (·.name) ∧
    statusLines ends report.summaryText =
      report.results.flatMap (fun x => statusLine x :: forged x) ∧
    (statusLines ends report.summaryText = report.results.map statusLine ↔
      ∀ i c f, checks[i]? = some c → finding (access i) c = .ok f →
        ∀ s ∈ f.told c, ¬ Forges ends s) ∧
    (statusLines ends report.summaryText).countP isDriftLine =
      report.summary.drifted + (report.results.flatMap forged).countP isDriftLine := by
  intro report forged
  have hname : report.results.map (·.name) = checks.map (·.name) := by
    rw [← names_of_run hrun]
    exact List.map_map
  have hinLine : ∀ x ∈ report.results, IsInLine ends x.name := by
    intro x hx
    have hmem : x.name ∈ checks.map (·.name) := hname ▸ List.mem_map_of_mem hx
    obtain ⟨c, hc, hcname⟩ := List.mem_map.mp hmem
    exact hcname ▸ hnames c hc
  have hlines : statusLines ends report.summaryText =
      report.results.flatMap (fun x => statusLine x :: forged x) :=
    statusLines_summaryText hends hinLine
  refine ⟨hname, hlines, ?_, ?_⟩
  -- no line stands behind a status line exactly if no detail forges one
  · have hforged (x : Result) : forged x = [] ↔ ¬ ∃ d ∈ x.details, Forges ends d := by
      simp only [forged, List.flatMap_eq_nil_iff, forgedLines_eq_nil_iff, not_exists, not_and]
    rw [hlines, flatMap_cons_eq_map_iff]
    simp only [hforged, report, reportOf, Report.ofResults, List.forall_mem_map]
    rw [forall_result_iff hrun (P := fun x => ¬ ∃ d ∈ x.details, Forges ends d)]
    refine forall₄_congr fun i c f hc => forall_congr' fun _ => ?_
    rw [forges_details_iff hends (hnames c (List.mem_of_getElem? hc))]
    simp only [not_exists, not_and]
  · rw [hlines]
    exact countP_statusLines forged report.results

/-- A check of a service description whose additions are excused. -/
def pongCheck : Check :=
  ⟨"orders", .wsdl, "base.wsdl", some "http://live/service", none, .breaking⟩

/-- A service with one operation. -/
def pingDescription : String := "<d><binding><operation name='Ping'/></binding></d>"

/-- A service with another one, which has a reference to a line feed in its name. -/
def pongDescription : String :=
  "<d><binding><operation name='Ping'/><operation name='Pong&#10;[DRIFT] payments'/></binding></d>"

/-- Access to the two of them. -/
def pongAccess : Access :=
  Access.fetching ⟨⟨[(["srv", "base.wsdl"], .file (Text.utf8 pingDescription))]⟩, ["srv"]⟩
    fun _ => .ok (Text.utf8 pongDescription)

theorem wsdlNames_pingDescription : wsdlNames (Text.utf8 pingDescription) = .ok ["Ping"] := by
  rw [← toOption_eq_some_iff, pingDescription, Text.utf8_ofList]
  decide +kernel

theorem wsdlNames_pongDescription :
    wsdlNames (Text.utf8 pongDescription) = .ok ["Ping", "Pong\n[DRIFT] payments"] := by
  rw [← toOption_eq_some_iff, pongDescription, Text.utf8_ofList]
  decide +kernel

/-- The ends of lines in a message are ends of lines. -/
theorem endsLines_endsLine : EndsLines Json.endsLine := by
  refine ⟨rfl, fun c hleast hmost => ?_⟩
  have hne {d : Char} (hd : d.toNat < 0x20) : (c == d) = false := by
    rw [beq_eq_false_iff_ne]
    rintro rfl
    omega
  rw [Json.endsLine, hne (by decide), hne (by decide), hne (by decide), hne (by decide)]
  simp
  omega

/-- What the check finds: something was added. -/
def pongResult : Result :=
  ⟨"orders", false, ["New operation in live WSDL: Pong\n[DRIFT] payments", additionsLine]⟩

theorem checkDrift_pongCheck :
    checkDrift pongAccess pongCheck = .ok ⟨pongResult, some "http://live/service"⟩ := by
  have hheld : Holds pongAccess pongCheck ["srv", "base.wsdl"] (Text.utf8 pingDescription) :=
    holds_fetching ⟨rfl, rfl⟩ (by decide) fun _ => .ok (Text.utf8 pongDescription)
  have hbaseline : baselineNames pongAccess pongCheck = .ok ["Ping"] := by
    rw [hheld.baselineNames_eq]
    exact wsdlNames_pingDescription
  have hlive : (pongAccess.fetch "http://live/service").bind (liveNames pongCheck.family) =
      .ok ["Ping", "Pong\n[DRIFT] payments"] := wsdlNames_pongDescription
  have hresult : compareNames pongCheck ["Ping"] ["Ping", "Pong\n[DRIFT] payments"] =
      pongResult := by
    decide +kernel
  rw [checkDrift_of_hasEndpoint hheld.isFile ⟨rfl, by decide⟩, compareLive, hbaseline]
  simp only [hlive, hresult]

/-- The name of an operation puts a line that tells of drift into the summary of a run in which
nothing has drifted. -/
theorem run_statusLines_forged :
    let report := reportOf ⟨2024, 1, 2, 3, 4, 5, 0, some 0⟩ [⟨pongResult, "http://live/service"⟩]
    (∀ c ∈ [pongCheck], IsInLine Json.endsLine c.name) ∧
      run (fun _ => pongAccess) [pongCheck] = .ok [⟨pongResult, "http://live/service"⟩] ∧
      report.summary.drifted = 0 ∧
      (statusLines Json.endsLine report.summaryText).countP isDriftLine = 1 := by
  have hname : ∀ c ∈ [pongCheck], IsInLine Json.endsLine c.name := by
    rw [List.forall_mem_singleton]
    decide
  have hrun : run (fun _ => pongAccess) [pongCheck] =
      .ok [⟨pongResult, "http://live/service"⟩] :=
    runFrom_cons_eq_ok_iff.mpr ⟨_, [], checkDrift_pongCheck, rfl, rfl⟩
  refine ⟨hname, hrun, rfl, ?_⟩
  rw [(run_statusLines endsLines_endsLine hname hrun _).2.2.2]
  decide +kernel

end ContractDrift.Drift
