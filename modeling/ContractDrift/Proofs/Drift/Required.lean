/-
The required fields of a live schema.

A live schema has the fields that its member for them lists, and none if it has no such member
(`Requires`).  Any other member should be refused, and so it is, but for those that say nothing:
null, false, zero and what is empty (`IsBlank`) count as an empty list.  `checkDrift_required`
tells the three cases apart for a check that comes to a live object, and says that no other case
is clean.

Design notes: a baseline is checked against the schema of its dialect before its fields are read,
so blank members matter on the live side only.
-/
import ContractDrift.Proofs.Drift.Unchanged
import ContractDrift.Proofs.Json.WrittenValue

namespace ContractDrift.Drift

open ContractDrift.Json (Value Members)
open ContractDrift.Text (Octets)

/-! ## Members that list required fields -/

/-- The names that an object requires: those that it lists, and none if it has no such member. -/
inductive Requires (m : Members) : List String → Prop
  | absent : m.get? "required" = none → Requires m []
  | listed {names : List String} :
      m.get? "required" = some (.array (names.map .text)) → Requires m names

/-- A value that says nothing and is no list. -/
inductive IsBlank : Value → Prop
  | null : IsBlank .null
  | false : IsBlank (.bool false)
  | zero : IsBlank (.int 0)
  | zeroReal {x : Float} : (x == 0) = true → IsBlank (.real x)
  | emptyText : IsBlank (.text "")
  | emptyObject : IsBlank (.object [])

/-- A value that is neither blank nor a list of texts. -/
def IsMalformed (v : Value) : Prop :=
  ¬ IsBlank v ∧ ∀ names : List String, v ≠ .array (names.map .text)

variable {m : Members} {v : Value} {names : List String}

theorem isTruthy_eq_false_iff : v.isTruthy = false ↔ IsBlank v ∨ v = .array [] := by
  constructor
  · intro h
    cases v with
    | null => exact .inl .null
    | bool b =>
      obtain rfl : b = false := h
      exact .inl .false
    | int n =>
      obtain rfl : n = 0 := by simpa [Value.isTruthy] using h
      exact .inl .zero
    -- a zero of either sign
    | real x => exact .inl (.zeroReal (by simpa [Value.isTruthy] using h))
    | text s =>
      obtain rfl : s = "" := by simpa [Value.isTruthy] using h
      exact .inl .emptyText
    | array xs =>
      obtain rfl : xs = [] := by simpa [Value.isTruthy] using h
      exact .inr rfl
    | object m =>
      obtain rfl : m = [] := by simpa [Value.isTruthy] using h
      exact .inl .emptyObject
  · rintro (hblank | rfl)
    · cases hblank with
      | zeroReal hx => simp [Value.isTruthy, hx]
      | _ => rfl
    · rfl

theorem text_of_isText (h : v.isText = true) : ∃ s, v = .text s := by
  obtain ⟨s, hs⟩ := Option.isSome_iff_exists.mp h
  exact ⟨s, Value.text?_eq_some_iff.mp hs⟩

/-- A list of texts is the list of its texts. -/
theorem eq_map_text_of_all {xs : List Value} (h : xs.all Value.isText = true) :
    ∃ names : List String, xs = names.map .text := by
  induction xs with
  | nil => exact ⟨[], rfl⟩
  | cons x xs ih =>
    rw [List.all_cons, Bool.and_eq_true] at h
    obtain ⟨s, rfl⟩ := text_of_isText h.1
    obtain ⟨names, rfl⟩ := ih h.2
    exact ⟨s :: names, rfl⟩

/-! ## How they are read -/

theorem requiredNames_of_requires (side : Side) (h : Requires m names) :
    requiredNames side (.object m) = .ok (Text.distinct names) := by
  cases h with
  | absent hnone =>
    simp only [requiredNames, hnone]
    rfl
  | listed hlist =>
    simp only [requiredNames, hlist]
    cases names with
    | nil => rfl
    | cons n names =>
      have hall : ((n :: names).map Value.text).all Value.isText = true := by
        simp [Value.isText, Value.text?]
      rw [if_pos hall, Value.filterMap_text?]
      rfl

theorem requiredNames_of_isBlank (side : Side) (hv : m.get? "required" = some v)
    (h : IsBlank v) : requiredNames side (.object m) = .ok [] := by
  simp only [requiredNames, hv, isTruthy_eq_false_iff.mpr (.inl h)]
  rfl

theorem requiredNames_of_isMalformed (side : Side) (hv : m.get? "required" = some v)
    (h : IsMalformed v) : requiredNames side (.object m) = .error (.requiredNotTexts side) := by
  have htruthy : v.isTruthy = true := by
    rw [← Bool.not_eq_false, isTruthy_eq_false_iff]
    rintro (hblank | rfl)
    · exact h.1 hblank
    · exact h.2 [] rfl
  simp only [requiredNames, hv, htruthy]
  cases v with
  | array xs =>
    have hall : xs.all Value.isText ≠ true := fun hall =>
      (eq_map_text_of_all hall).elim fun names hnames => h.2 names (congrArg Value.array hnames)
    exact if_neg hall
  | _ => rfl

/-! ## What a check makes of them -/

/-- A check of a message schema comes to a live object: its baseline is at hand and has these
names, and its endpoint answers with the object. -/
structure ReachesObject (a : Access) (c : Check) (baseline : List String) (m : Members) : Prop where
  family_eq : c.family = .message
  held : ∃ p document, Holds a c p document ∧ projectBaseline c p document = .ok baseline
  live : ∃ address answer, HasEndpoint c address ∧ a.fetch address = .ok answer ∧
    Json.parseOctets answer = .ok (.object m)

/-- A result is that of comparing some names with others: it is drift exactly if a name is lost,
or one is added where additions count. -/
structure IsComparisonResult (c : Check) (baseline live : List String) (r : Result) : Prop where
  name_eq : r.name = c.name
  drifted_iff : r.drifted = true ↔
    (∃ n ∈ baseline, n ∉ live) ∨ c.policy = .symmetric ∧ ∃ n ∈ live, n ∉ baseline
  details : IsComparison c baseline live r.details

/-- The result of a check whose live document has a malformed list of required fields. -/
def malformedResult (c : Check) : Result :=
  ⟨c.name, true,
    ["Error checking " ++ c.name ++ ": " ++ "Live schema 'required' must be an array of strings"]⟩

variable {a : Access} {c : Check} {baseline : List String}

theorem isComparisonResult_compareNames {live : List String} (hbaseline : baseline.Nodup) :
    IsComparisonResult c baseline live (compareNames c baseline (Text.distinct live)) := by
  refine ⟨rfl, ?_, ?_⟩
  · simp only [drifted_compareNames, Text.mem_distinct]
  · have h := isComparison_compareNames c hbaseline (Text.nodup_distinct live)
    simpa only [IsComparison, Text.mem_distinct] using h

theorem ReachesObject.checkDrift_eq (h : ReachesObject a c baseline m) :
    ∃ address, HasEndpoint c address ∧ checkDrift a c =
      .ok ⟨match requiredNames .live (.object m) with
        | .ok live => compareNames c baseline live
        | .error e => failed c e, some address⟩ := by
  obtain ⟨p, document, hheld, hproject⟩ := h.held
  obtain ⟨address, answer, haddress, hfetch, hparse⟩ := h.live
  refine ⟨address, haddress, ?_⟩
  have hlive : (a.fetch address).bind (liveNames c.family) = requiredNames .live (.object m) := by
    rw [hfetch, h.family_eq]
    simp only [Except.bind, liveNames, liveSchemaNames, hparse]
  rw [checkDrift_of_hasEndpoint hheld.isFile haddress, compareLive]
  simp only [hheld.baselineNames_eq, hproject, hlive]
  cases requiredNames .live (.object m) <;> rfl

theorem ReachesObject.nodup (h : ReachesObject a c baseline m) : baseline.Nodup := by
  obtain ⟨p, document, -, hproject⟩ := h.held
  have hprojection := isProjection_projectBaseline c p document
  rwa [hproject] at hprojection

/-- How the required fields of a live object count.  The names that it requires are compared with
those of the baseline; a blank member is taken for no names, and is compared like them; any other
member that is no list of texts is drift, with one detail that says so.  Hence a check is clean
only where the object requires names or its member is blank. -/
theorem checkDrift_required (h : ReachesObject a c baseline m) :
    ∃ address o, HasEndpoint c address ∧ checkDrift a c = .ok o ∧ o.fetched = some address ∧
      (∀ names, Requires m names → IsComparisonResult c baseline names o.result) ∧
      (∀ v, m.get? "required" = some v → IsBlank v →
        IsComparisonResult c baseline [] o.result) ∧
      (∀ v, m.get? "required" = some v → IsMalformed v → o.result = malformedResult c) ∧
      (o.result.drifted = false →
        (∃ names, Requires m names) ∨ ∃ v, m.get? "required" = some v ∧ IsBlank v) := by
  obtain ⟨address, haddress, hcheck⟩ := h.checkDrift_eq
  have hcompared (names : List String) :
      IsComparisonResult c baseline names (compareNames c baseline (Text.distinct names)) :=
    isComparisonResult_compareNames h.nodup
  refine ⟨address, _, haddress, hcheck, rfl, fun names hnames => ?_, fun v hv hblank => ?_,
    fun v hv hmalformed => ?_, fun hclean => ?_⟩
  · rw [requiredNames_of_requires .live hnames]
    exact hcompared names
  · rw [requiredNames_of_isBlank .live hv hblank]
    exact hcompared []
  · rw [requiredNames_of_isMalformed .live hv hmalformed]
    exact failed_eq (e := .requiredNotTexts .live) c rfl
  · -- what is neither of the two is malformed, and so it drifts
    by_contra hneither
    obtain ⟨hlisted, hblank⟩ := not_or.mp hneither
    cases hv : m.get? "required" with
    | none => exact hlisted ⟨[], .absent hv⟩
    | some v =>
      have hmalformed : IsMalformed v :=
        ⟨fun h => hblank ⟨v, hv, h⟩, fun names hnames => hlisted ⟨names, .listed (hnames ▸ hv)⟩⟩
      rw [requiredNames_of_isMalformed .live hv hmalformed] at hclean
      exact absurd hclean (by simp [failed])

/-- A check of a message schema. -/
def orderCheck : Check :=
  ⟨"orders", .message, "base.json", some "http://live/schema", none, .symmetric⟩

/-- A baseline that requires nothing. -/
def anySchema : String := "\x7b\x7d"

/-- A live schema whose required fields are null. -/
def nullRequired : Octets :=
  Text.utf8 (Json.writeIndented 2 (.object [("required", .null)]))

/-- Access to the baseline and the live schema. -/
def nullAccess : Access :=
  Access.fetching ⟨⟨[(["srv", "base.json"], .file (Text.utf8 anySchema))]⟩, ["srv"]⟩
    fun _ => .ok nullRequired

theorem projectBaseline_anySchema :
    projectBaseline orderCheck ["srv", "base.json"] (Text.utf8 anySchema) = .ok [] := by
  rw [← toOption_eq_some_iff, anySchema, Text.utf8_ofList]
  decide +kernel

theorem parseOctets_nullRequired :
    Json.parseOctets nullRequired = .ok (.object [("required", .null)]) :=
  Json.parseOctets_writeIndented 2 ⟨List.nodup_singleton _, trivial, trivial⟩

/-- Null passes for the list of no fields, and the check is clean. -/
theorem checkDrift_required_null :
    ReachesObject nullAccess orderCheck [] [("required", .null)] ∧
      ∃ o, checkDrift nullAccess orderCheck = .ok o ∧
        o.fetched = some "http://live/schema" ∧ o.result.drifted = false := by
  have hheld : Holds nullAccess orderCheck ["srv", "base.json"] (Text.utf8 anySchema) :=
    holds_fetching ⟨rfl, rfl⟩ (by decide) fun _ => .ok nullRequired
  have hendpoint : HasEndpoint orderCheck "http://live/schema" := ⟨rfl, by decide⟩
  have hreaches : ReachesObject nullAccess orderCheck [] [("required", .null)] :=
    ⟨rfl, ⟨_, _, hheld, projectBaseline_anySchema⟩,
      ⟨_, nullRequired, hendpoint, rfl, parseOctets_nullRequired⟩⟩
  obtain ⟨address, o, haddress, hcheck, hfetched, -, hblank, -, -⟩ := checkDrift_required hreaches
  obtain rfl := haddress.unique hendpoint
  refine ⟨hreaches, o, hcheck, hfetched, ?_⟩
  rw [Bool.eq_false_iff, ne_eq, (hblank .null rfl .null).drifted_iff]
  simp

end ContractDrift.Drift
