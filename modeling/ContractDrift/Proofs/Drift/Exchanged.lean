/-
Comparing two contracts either way round.

A name that is missing from the live contract is one that is new once the two documents change
places.  The details of a result give the names back, because no two of their wordings begin alike
(`removedNames_compareNames`, `addedNames_compareNames`), and the two differences of names are one
function of the two sides in either order.  `checkDrift_exchanged` states it for two checks with
the documents exchanged, whatever their names and the places of their baselines.

Design notes: the two sides of a message schema are read in different ways, so a document has to
keep its names when it changes sides (`liveNames_of_projectBaseline`).
-/
import ContractDrift.Proofs.Text.Split
import ContractDrift.Proofs.Drift.Unchanged

namespace ContractDrift.Drift

open ContractDrift.Text (Octets)

/-! ## Reading names in a result -/

/-- The names that details give by a wording that puts its words before the name. -/
def namesGiven (wording : String → String) (details : List String) : List String :=
  details.filterMap fun d =>
    (Text.dropPrefix? (wording "").toList d.toList).map String.ofList

/-- The names that a result of a check of a family reports as removed, in order. -/
def Result.removedNames (f : Family) (r : Result) : List String :=
  namesGiven f.removedLine r.details

/-- The names that a result of a check of a family reports as added, in order. -/
def Result.addedNames (f : Family) (r : Result) : List String :=
  namesGiven f.addedLine r.details

theorem namesGiven_append (wording : String → String) (details details' : List String) :
    namesGiven wording (details ++ details') =
      namesGiven wording details ++ namesGiven wording details' := by
  rw [namesGiven, List.filterMap_append]
  rfl

theorem namesGiven_map {wording : String → String} (h : ∀ n, wording n = wording "" ++ n)
    (names : List String) : namesGiven wording (names.map wording) = names := by
  induction names with
  | nil => rfl
  | cons n names ih =>
    have hdrop : Text.dropPrefix? (wording "").toList (wording n).toList = some n.toList := by
      rw [Text.dropPrefix?_eq_some_iff, h n, String.toList_append]
    rw [List.map_cons, namesGiven, List.filterMap_cons, hdrop, Option.map_some,
      String.ofList_toList]
    exact congrArg (n :: ·) ih

/-- Details that begin otherwise give no names. -/
theorem namesGiven_of_head {wording : String → String} {x : Char} {details : List String}
    (hwording : (wording "").toList.head? = some x)
    (h : ∀ d ∈ details, d.toList.head? ≠ some x) : namesGiven wording details = [] := by
  obtain ⟨words, hwords⟩ := List.head?_eq_some_iff.mp hwording
  rw [namesGiven, List.filterMap_eq_nil_iff]
  intro d hd
  rw [Option.map_eq_none_iff, Option.eq_none_iff_forall_ne_some]
  intro rest hrest
  refine h d hd ?_
  rw [Text.dropPrefix?_eq_some_iff.mp hrest, hwords]
  rfl

theorem removedLine_eq (f : Family) (n : String) : f.removedLine n = f.removedLine "" ++ n := by
  unfold Family.removedLine
  rw [String.append_empty]

theorem addedLine_eq (f : Family) (n : String) : f.addedLine n = f.addedLine "" ++ n := by
  unfold Family.addedLine
  rw [String.append_empty]

theorem head?_removedLine (f : Family) (n : String) :
    (f.removedLine n).toList.head? = some 'O' ∨ (f.removedLine n).toList.head? = some 'R' := by
  unfold Family.removedLine
  cases f <;> simp

theorem head?_addedLine (f : Family) (n : String) :
    (f.addedLine n).toList.head? = some 'N' := by
  unfold Family.addedLine
  cases f <;> simp

/-- The details of a comparison: the lines for names, and a closing line that begins in a way of
its own, if there is one. -/
theorem exists_details_compareNames (c : Check) (baseline live : List String) :
    ∃ closing : List String,
      (∀ d ∈ closing, d.toList.head? = some 'A' ∨ d.toList.head? = some 'M') ∧
      (compareNames c baseline live).details =
        (namesLost baseline live).map c.family.removedLine ++
          (namesLost live baseline).map c.family.addedLine ++ closing := by
  refine ⟨_, ?_, rfl⟩
  intro d hd
  split at hd
  · obtain rfl := List.mem_singleton.mp hd
    cases c.family <;> simp [Family.matchLine]
  · split at hd
    · obtain rfl := List.mem_singleton.mp hd
      simp [additionsLine]
    · simp at hd

theorem removedNames_compareNames (c : Check) (baseline live : List String) :
    (compareNames c baseline live).removedNames c.family = namesLost baseline live := by
  obtain ⟨closing, hclosing, hdetails⟩ := exists_details_compareNames c baseline live
  have hothers : namesGiven c.family.removedLine
      ((namesLost live baseline).map c.family.addedLine ++ closing) = [] := by
    have hhead (d : String) (hd : d ∈ (namesLost live baseline).map c.family.addedLine ++ closing) :
        d.toList.head? = some 'N' ∨ d.toList.head? = some 'A' ∨ d.toList.head? = some 'M' := by
      rcases List.mem_append.mp hd with h | h
      · obtain ⟨n, -, rfl⟩ := List.mem_map.mp h
        exact Or.inl (head?_addedLine c.family n)
      · exact Or.inr (hclosing d h)
    rcases head?_removedLine c.family "" with h | h <;>
      exact namesGiven_of_head h fun d hd => by rcases hhead d hd with h | h | h <;> simp [h]
  rw [Result.removedNames, hdetails, List.append_assoc, namesGiven_append, hothers,
    namesGiven_map (removedLine_eq c.family), List.append_nil]

theorem addedNames_compareNames (c : Check) (baseline live : List String) :
    (compareNames c baseline live).addedNames c.family = namesLost live baseline := by
  obtain ⟨closing, hclosing, hdetails⟩ := exists_details_compareNames c baseline live
  have hremoved : namesGiven c.family.addedLine
      ((namesLost baseline live).map c.family.removedLine) = [] := by
    refine namesGiven_of_head (head?_addedLine c.family "") fun d hd => ?_
    obtain ⟨n, -, rfl⟩ := List.mem_map.mp hd
    rcases head?_removedLine c.family n with h | h <;> simp [h]
  have hclosed : namesGiven c.family.addedLine closing = [] := by
    refine namesGiven_of_head (head?_addedLine c.family "") fun d hd => ?_
    rcases hclosing d hd with h | h <;> simp [h]
  rw [Result.addedNames, hdetails, namesGiven_append, namesGiven_append, hremoved, hclosed,
    namesGiven_map (addedLine_eq c.family), List.nil_append, List.append_nil]

/-! ## The other way round -/

/-- Two results mirror each other: what one reports as removed the other reports as added, in the
same order, namely the names of one side that the other lacks, in the order of code points.
Without a policy that excuses additions the two drift together; with it both are clean when the
two sides have the same names, and only then. -/
structure AreMirrored (f : Family) (policy : Policy) (names names' : List String)
    (result result' : Result) : Prop where
  removed_eq_added : result.removedNames f = result'.addedNames f
  added_eq_removed : result.addedNames f = result'.removedNames f
  mem_removed : ∀ n, n ∈ result.removedNames f ↔ n ∈ names ∧ n ∉ names'
  mem_added : ∀ n, n ∈ result.addedNames f ↔ n ∈ names' ∧ n ∉ names
  removed_sorted : (result.removedNames f).Pairwise Text.Precedes
  added_sorted : (result.addedNames f).Pairwise Text.Precedes
  drifted_eq : policy = .symmetric → result.drifted = result'.drifted
  clean_iff : policy = .breaking →
    (result.drifted = false ∧ result'.drifted = false ↔ ∀ n, n ∈ names ↔ n ∈ names')

theorem areMirrored_compareNames {c c' : Check} {names names' : List String}
    (hfamily : c'.family = c.family) (hpolicy : c'.policy = c.policy) (hnames : names.Nodup)
    (hnames' : names'.Nodup) :
    AreMirrored c.family c.policy names names' (compareNames c names names')
      (compareNames c' names' names) := by
  have hremoved := removedNames_compareNames c names names'
  have hadded := addedNames_compareNames c names names'
  have hremoved' := removedNames_compareNames c' names' names
  have hadded' := addedNames_compareNames c' names' names
  rw [hfamily] at hremoved' hadded'
  refine ⟨?_, ?_, ?_, ?_, ?_, ?_, fun h => ?_, fun h => ?_⟩
  · rw [hremoved, hadded']
  · rw [hadded, hremoved']
  · rw [hremoved]
    exact fun n => mem_namesLost
  · rw [hadded]
    exact fun n => mem_namesLost
  · rw [hremoved]
    exact pairwise_namesLost hnames names'
  · rw [hadded]
    exact pairwise_namesLost hnames' names
  · -- without the policy, a difference on either side is drift
    rw [Bool.eq_iff_iff, drifted_compareNames, drifted_compareNames, hpolicy, h]
    simp only [true_and]
    exact or_comm
  · rw [← Bool.not_eq_true, ← Bool.not_eq_true, drifted_compareNames, drifted_compareNames,
      hpolicy, h]
    grind

/-- A check has both documents: its baseline is at hand, and its endpoint answers. -/
structure Meets (a : Access) (c : Check) (p : Files.Path) (document answer : Octets) : Prop
    extends Holds a c p document where
  answers : ∃ address, HasEndpoint c address ∧ a.fetch address = .ok answer

theorem Meets.checkDrift_eq {a : Access} {c : Check} {p : Files.Path} {document answer : Octets}
    {names live : List String} (h : Meets a c p document answer)
    (hnames : projectBaseline c p document = .ok names)
    (hlive : liveNames c.family answer = .ok live) :
    ∃ o, checkDrift a c = .ok o ∧ o.result = compareNames c names live := by
  obtain ⟨address, haddress, hanswer⟩ := h.answers
  refine ⟨_, checkDrift_of_hasEndpoint h.isFile haddress, ?_⟩
  rw [compareLive, h.toHolds.baselineNames_eq, hnames]
  simp only [hanswer, Except.bind, hlive]

/-- Two contracts compared either way round.  Where two documents of one family are both accepted
as baselines, the check of the first against the second and that of the second against the first
come to results that mirror each other, under every name of a check. -/
theorem checkDrift_exchanged {a a' : Access} {c c' : Check} {p p' : Files.Path}
    {first second : Octets} {names names' : List String} (hfamily : c'.family = c.family)
    (hpolicy : c'.policy = c.policy) (h : Meets a c p first second)
    (h' : Meets a' c' p' second first) (hnames : projectBaseline c p first = .ok names)
    (hnames' : projectBaseline c' p' second = .ok names') :
    ∃ o o', checkDrift a c = .ok o ∧ checkDrift a' c' = .ok o' ∧
      AreMirrored c.family c.policy names names' o.result o'.result := by
  have hlive : liveNames c'.family first = .ok names :=
    hfamily ▸ liveNames_of_projectBaseline hnames
  have hlive' : liveNames c.family second = .ok names' :=
    hfamily ▸ liveNames_of_projectBaseline hnames'
  obtain ⟨o, ho, hresult⟩ := h.checkDrift_eq hnames hlive'
  obtain ⟨o', ho', hresult'⟩ := h'.checkDrift_eq hnames' hlive
  have hfirst := isProjection_projectBaseline c p first
  have hsecond := isProjection_projectBaseline c' p' second
  rw [hnames] at hfirst
  rw [hnames'] at hsecond
  refine ⟨o, o', ho, ho', ?_⟩
  rw [hresult, hresult']
  exact areMirrored_compareNames hfamily hpolicy hfirst hsecond

/-- A check of another message schema, under another name. -/
def invoiceCheck : Check :=
  ⟨"invoices", .message, "invoice.json", some "http://localhost/invoice", none, .breaking⟩

/-- A message schema that shares one required field with the schema of orders. -/
def invoiceSchema : String := "\x7b\"required\": [\"total\", \"tax\"]\x7d"

theorem projectBaseline_invoiceSchema :
    projectBaseline invoiceCheck ["srv", "invoice.json"] (Text.utf8 invoiceSchema) =
      .ok ["total", "tax"] := by
  rw [← toOption_eq_some_iff, invoiceSchema, Text.utf8_ofList]
  decide +kernel

/-- The files of the schemas of orders and of invoices. -/
def schemaReader : Files.Reader :=
  ⟨⟨[(["srv", "order.json"], .file (Text.utf8 orderSchema)),
    (["srv", "invoice.json"], .file (Text.utf8 invoiceSchema))]⟩, ["srv"]⟩

/-- Orders against invoices, and invoices against orders. -/
theorem checkDrift_exchanged_invoices :
    let a := Access.fetching schemaReader fun address =>
      .ok (Text.utf8 (if address = "http://localhost/order" then invoiceSchema else orderSchema))
    Meets a namelessCheck ["srv", "order.json"] (Text.utf8 orderSchema)
        (Text.utf8 invoiceSchema) ∧
      Meets a invoiceCheck ["srv", "invoice.json"] (Text.utf8 invoiceSchema)
        (Text.utf8 orderSchema) ∧
      ∃ o o', checkDrift a namelessCheck = .ok o ∧ checkDrift a invoiceCheck = .ok o' ∧
        AreMirrored .message .breaking ["id", "total"] ["total", "tax"] o.result o'.result := by
  have hp : IsBaseline schemaReader namelessCheck ["srv", "order.json"]
      (Text.utf8 orderSchema) := ⟨rfl, rfl⟩
  have hp' : IsBaseline schemaReader invoiceCheck ["srv", "invoice.json"]
      (Text.utf8 invoiceSchema) := ⟨rfl, rfl⟩
  intro a
  have horder : Meets a namelessCheck ["srv", "order.json"] (Text.utf8 orderSchema)
      (Text.utf8 invoiceSchema) :=
    ⟨holds_fetching hp (by decide) _, "http://localhost/order", ⟨rfl, by decide⟩, rfl⟩
  have hinvoice : Meets a invoiceCheck ["srv", "invoice.json"] (Text.utf8 invoiceSchema)
      (Text.utf8 orderSchema) :=
    ⟨holds_fetching hp' (by decide) _, "http://localhost/invoice", ⟨rfl, by decide⟩, rfl⟩
  exact ⟨horder, hinvoice, checkDrift_exchanged rfl rfl horder hinvoice
    projectBaseline_orderSchema projectBaseline_invoiceSchema⟩

end ContractDrift.Drift
