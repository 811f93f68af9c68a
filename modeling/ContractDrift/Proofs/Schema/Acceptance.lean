/-
What a document has that a schema accepts.

A schema accepts a document if an evaluation finds nothing and does not stop (`Accepts`).  Then
none of its keywords finds anything, and so the schemas that these apply accept what they are
applied to, three levels further down; the lemmas follow this for the keywords by which schemas
are themselves described.
-/
import ContractDrift.Proofs.Schema.Stopping

namespace ContractDrift.Schema

open ContractDrift.Json (Value Members display)
open Findings (expect one stopped each after under)

/-! ## Nothing found -/

section Findings

variable {α : Type}

theorem eq_none_iff {f : Findings} : f = .none ↔ f.violations = [] ∧ f.stop = .none := by
  obtain ⟨violations, stop⟩ := f
  exact Findings.mk.injEq .. ▸ Iff.rfl

theorem none_of_each {xs : List α} {g : α → Findings} (h : each xs g = .none) {a : α}
    (ha : a ∈ xs) : g a = .none := by
  induction xs with
  | nil => cases ha
  | cons b xs ih =>
    rw [each] at h
    split at h
    · rename_i s hs
      cases hs.symm.trans (eq_none_iff.mp h).2
    · rename_i hs
      obtain ⟨hviolations, hstop⟩ := eq_none_iff.mp h
      obtain ⟨hhere, hrest⟩ := List.append_eq_nil_iff.mp hviolations
      rcases List.mem_cons.mp ha with rfl | ha
      · exact eq_none_iff.mpr ⟨hhere, hs⟩
      · exact ih (eq_none_iff.mpr ⟨hrest, hstop⟩) ha

theorem none_of_after {x : Except Stop α} {g : α → Findings} (h : after x g = .none) :
    ∃ a, x = .ok a ∧ g a = .none := by
  cases x with
  | error s => exact nomatch (eq_none_iff.mp h).2
  | ok a => exact ⟨a, rfl, h⟩

theorem none_of_under {step : Step} {f : Findings} (h : under step f = .none) : f = .none := by
  obtain ⟨hviolations, hstop⟩ := eq_none_iff.mp h
  exact eq_none_iff.mpr ⟨List.map_eq_nil_iff.mp hviolations, hstop⟩

theorem holds_of_expect {holds : Bool} {k message : String}
    (h : expect holds k message = .none) : holds = true := by
  cases holds with
  | true => rfl
  | false => exact nomatch (eq_none_iff.mp h).1

theorem none_of_all {f : Findings}
    (h : (do return (← f.all).isEmpty : Except Stop Bool) = .ok true) : f = .none := by
  obtain ⟨found, hfound, hpure⟩ := bind_eq_ok_iff.mp h
  obtain ⟨hstop, rfl⟩ := Findings.all_eq_ok_iff.mp hfound
  exact eq_none_iff.mpr ⟨List.isEmpty_iff.mp (pure_eq_ok_iff.mp hpure).symm, hstop⟩

theorem exists_of_anyM {p : α → Except Stop Bool} {xs : List α} (h : xs.anyM p = .ok true) :
    ∃ a ∈ xs, p a = .ok true := by
  induction xs with
  | nil => exact nomatch pure_eq_ok_iff.mp h
  | cons a xs ih =>
    rw [List.anyM] at h
    obtain ⟨b, hb, hrest⟩ := bind_eq_ok_iff.mp h
    cases b with
    | true => exact ⟨a, List.mem_cons_self, hb⟩
    | false =>
      obtain ⟨c, hc, hfound⟩ := ih hrest
      exact ⟨c, List.mem_cons_of_mem a hc, hfound⟩

end Findings

/-! ## Schemas -/

/-- A schema has neither an identifier nor a dialect of its own. -/
def isAnonymous (s : Members) : Bool := ["$schema", "$id", "id"].all fun k => !s.has k

section Anonymous

variable {s : Members} {d : Dialect}

theorem get?_of_isAnonymous (hs : isAnonymous s = true) {k : String}
    (hk : k ∈ ["$schema", "$id", "id"]) : s.get? k = none := by
  have hall := List.all_eq_true.mp hs k hk
  simpa [Members.has] using hall

theorem ofSchema_of_isAnonymous (hs : isAnonymous s = true) : d.ofSchema (.object s) = d := by
  have hget : (Value.object s).get? "$schema" = none :=
    get?_of_isAnonymous hs (by simp)
  rw [Dialect.ofSchema, hget]

theorem enter_of_isAnonymous (hs : isAnonymous s = true) (sc : Scope) :
    sc.enter ⟨.object s, d⟩ = sc := by
  have hid : (⟨.object s, d⟩ : Resource).id? = none := by
    unfold Resource.id? Resource.writtenId?
    dsimp only
    split
    · rfl
    · rw [get?_of_isAnonymous hs (by split <;> simp)]
      rfl
  rw [Scope.enter, hid]

end Anonymous

/-- The schema finds nothing against a document and comes to its end. -/
def Accepts (env : Setting) (f : Frame) (n : Nat) (s : Members) (v : Value) : Prop :=
  run n env f f.dialect (.object s) v = .none

section Keywords

variable {env : Setting} {d : Dialect} {sc : Scope} {n : Nat} {s sub : Members} {v value : Value}
  {rule : Keyword}

theorem Accepts.of_descend {scope : Option Scope} {step : Option Step}
    (hd : d.ofSchema (.object sub) = d)
    (h : descend n env ⟨d, sc⟩ scope step (.object sub) v = .none) :
    ∃ j, n = j + 1 ∧ Accepts env ⟨d, scope.getD (sc.enter ⟨.object sub, d⟩)⟩ j sub v := by
  cases n with
  | zero => exact nomatch (eq_none_iff.mp h).2
  | succ j =>
    unfold descend at h
    dsimp only at h
    rw [hd] at h
    refine ⟨j, rfl, ?_⟩
    cases step with
    | none => exact h
    | some step => exact none_of_under h

theorem Accepts.of_entered {step : Option Step} (hsub : isAnonymous sub = true)
    (h : descend n env ⟨d, sc⟩ .none step (.object sub) v = .none) :
    ∃ j, n = j + 1 ∧ Accepts env ⟨d, sc⟩ j sub v := by
  have hrun := Accepts.of_descend (ofSchema_of_isAnonymous hsub) h
  rwa [Option.getD_none, enter_of_isAnonymous hsub] at hrun

theorem Accepts.keyword (h : Accepts env ⟨d, sc⟩ n s v) (hsaid : Says d s rule value) :
    ∃ j k, n = j + 2 ∧ keyword (j + 1) env ⟨d, sc⟩ rule k value s v = .none := by
  obtain ⟨k, hmem, hrule⟩ := hsaid
  cases n with
  | zero => cases (eq_none_iff.mp h).2
  | succ n =>
    rw [Accepts, run] at h
    have hkeyword := none_of_each h hmem
    simp only [hrule] at hkeyword
    cases n with
    | zero => cases (eq_none_iff.mp hkeyword).2
    | succ j => exact ⟨j, k, rfl, hkeyword⟩

/-- A schema that is referred to accepts what is accepted. -/
theorem Accepts.reference (h : Accepts env ⟨d, sc⟩ n s v) {r : String} {sc' : Scope}
    (hsaid : Says d s .ref (.text r)) (hlookup : env.index.lookup sc r = .ok (.object sub, sc'))
    (hsub : d.ofSchema (.object sub) = d) : ∃ j, n = j + 3 ∧ Accepts env ⟨d, sc'⟩ j sub v := by
  obtain ⟨j, k, rfl, hkeyword⟩ := h.keyword hsaid
  rw [ContractDrift.Schema.keyword] at hkeyword
  simp only [hlookup] at hkeyword
  obtain ⟨i, rfl, haccepts⟩ := Accepts.of_descend hsub hkeyword
  exact ⟨i, rfl, haccepts⟩

theorem Accepts.anyOf (h : Accepts env ⟨d, sc⟩ n s v) {subs : List Members}
    (hsaid : Says d s .anyOf (.array (subs.map .object))) (hsubs : ∀ sub ∈ subs, isAnonymous sub) :
    ∃ sub ∈ subs, ∃ j, n = j + 3 ∧ Accepts env ⟨d, sc⟩ j sub v := by
  obtain ⟨j, k, rfl, hkeyword⟩ := h.keyword hsaid
  rw [ContractDrift.Schema.keyword] at hkeyword
  obtain ⟨found, hfound, hexpect⟩ := none_of_after hkeyword
  rw [holds_of_expect hexpect] at hfound
  obtain ⟨subschema, hmem, hpasses⟩ := exists_of_anyM hfound
  obtain ⟨sub, hsub, rfl⟩ := List.mem_map.mp hmem
  obtain ⟨i, rfl, haccepts⟩ := Accepts.of_entered (hsubs sub hsub) (none_of_all hpasses)
  exact ⟨sub, hsub, i, rfl, haccepts⟩

/-- The schema of a member accepts the latter. -/
theorem Accepts.property {doc props : Members} (h : Accepts env ⟨d, sc⟩ n s (.object doc))
    (hsaid : Says d s .properties (.object props)) {k : String} (hk : (k, .object sub) ∈ props)
    (hsub : isAnonymous sub = true) (hget : doc.get? k = some v) :
    ∃ j, n = j + 3 ∧ Accepts env ⟨d, sc⟩ j sub v := by
  obtain ⟨j, _, rfl, hkeyword⟩ := h.keyword hsaid
  rw [ContractDrift.Schema.keyword] at hkeyword
  have hmember := none_of_each hkeyword hk
  simp only [hget] at hmember
  obtain ⟨i, rfl, haccepts⟩ := Accepts.of_entered hsub hmember
  exact ⟨i, rfl, haccepts⟩

theorem additionalKeys_of_none {doc : Members} (hproperties : s.get? "properties" = none)
    (hpatterns : s.get? "patternProperties" = none) : additionalKeys s doc = .ok doc.keys := by
  unfold additionalKeys
  rw [hproperties, hpatterns]
  exact congrArg Except.ok (List.filter_eq_self.mpr fun _ _ => rfl)

/-- The schema of further members accepts them all, if there is none of any other member. -/
theorem Accepts.additional {doc : Members} (h : Accepts env ⟨d, sc⟩ n s (.object doc))
    (hsaid : Says d s .additionalProperties (.object sub)) (hsub : isAnonymous sub = true)
    (hproperties : s.get? "properties" = none) (hpatterns : s.get? "patternProperties" = none)
    {k : String} (hget : doc.get? k = some v) :
    ∃ j, n = j + 3 ∧ Accepts env ⟨d, sc⟩ j sub v := by
  obtain ⟨j, _, rfl, hkeyword⟩ := h.keyword hsaid
  rw [ContractDrift.Schema.keyword] at hkeyword
  obtain ⟨extra, hextra, heach⟩ := none_of_after hkeyword
  -- a schema without properties and patterns of its own leaves every key over
  have hk : k ∈ extra := by
    rw [additionalKeys_of_none hproperties hpatterns] at hextra
    obtain rfl := Except.ok.inj hextra
    exact List.mem_map_of_mem (mem_of_get? hget)
  have hmember := none_of_each heach hk
  simp only [hget, Option.getD_some] at hmember
  obtain ⟨i, rfl, haccepts⟩ := Accepts.of_entered hsub hmember
  exact ⟨i, rfl, haccepts⟩

/-- The schema of keys accepts them all. -/
theorem Accepts.key {doc : Members} (h : Accepts env ⟨d, sc⟩ n s (.object doc))
    (hsaid : Says d s .propertyNames (.object sub)) (hsub : isAnonymous sub = true) {k : String}
    (hk : k ∈ doc.keys) : ∃ j, n = j + 3 ∧ Accepts env ⟨d, sc⟩ j sub (.text k) := by
  obtain ⟨j, _, rfl, hkeyword⟩ := h.keyword hsaid
  rw [ContractDrift.Schema.keyword] at hkeyword
  obtain ⟨entry, hentry, rfl⟩ := List.mem_map.mp hk
  obtain ⟨i, rfl, haccepts⟩ := Accepts.of_entered hsub (none_of_each hkeyword hentry)
  exact ⟨i, rfl, haccepts⟩

/-- The schema of items accepts them all. -/
theorem Accepts.item {xs : List Value} (h : Accepts env ⟨d, sc⟩ n s (.array xs))
    (hd : d ≠ .draft2020) (hsaid : Says d s .items (.object sub)) (hsub : isAnonymous sub = true)
    {x : Value} (hx : x ∈ xs) : ∃ j, n = j + 3 ∧ Accepts env ⟨d, sc⟩ j sub x := by
  obtain ⟨j, _, rfl, hkeyword⟩ := h.keyword hsaid
  unfold ContractDrift.Schema.keyword at hkeyword
  dsimp only at hkeyword
  rw [if_neg hd] at hkeyword
  obtain ⟨i, hi⟩ := List.getElem?_of_mem hx
  have hitem := none_of_each hkeyword (List.mk_mem_zipIdx_iff_getElem?.mpr hi)
  obtain ⟨i, rfl, haccepts⟩ := Accepts.of_entered hsub hitem
  exact ⟨i, rfl, haccepts⟩

/-- What is accepted is of a type that the schema names. -/
theorem Accepts.type (h : Accepts env ⟨d, sc⟩ n s v) (hd : d ≠ .draft3)
    (hsaid : Says d s .type value) :
    ∃ type ∈ listOf value, isOfType d (.object s) v type = .ok true := by
  obtain ⟨j, k, -, hkeyword⟩ := h.keyword hsaid
  rw [ContractDrift.Schema.keyword] at hkeyword
  rw [if_neg hd] at hkeyword
  obtain ⟨found, hfound, hexpect⟩ := none_of_after hkeyword
  rw [holds_of_expect hexpect] at hfound
  exact exists_of_anyM hfound

/-- What is accepted is one of the values that the schema allows. -/
theorem Accepts.enum (h : Accepts env ⟨d, sc⟩ n s v) (hsaid : Says d s .enum value) :
    ∃ allowed ∈ listOf value, Json.same allowed v = true := by
  obtain ⟨j, k, -, hkeyword⟩ := h.keyword hsaid
  have henum : assertEnum k value v = .none := hkeyword
  exact List.any_eq_true.mp (holds_of_expect henum)

/-- A text that is accepted as a pattern can be read as one. -/
theorem Accepts.regex {text : String} (h : Accepts env ⟨d, sc⟩ n s (.text text))
    (hsaid : Says d s .format (.text "regex")) (hchecked : env.formats.contains .regex = true) :
    ∃ p, Pattern.Regex.parse text = .ok p := by
  obtain ⟨j, k, -, hkeyword⟩ := h.keyword hsaid
  have hformat : assertFormat env.formats k (.text "regex") (.text text) = .none := hkeyword
  have hnamed : Format.named.lookup "regex" = some .regex := rfl
  simp only [assertFormat, hnamed, hchecked, if_true] at hformat
  split at hformat
  · rename_i holds hcheck
    rw [holds_of_expect hformat, Format.check] at hcheck
    split at hcheck
    · rename_i p hp
      exact ⟨p, hp⟩
    · split at hcheck <;> exact nomatch hcheck
  · exact nomatch (eq_none_iff.mp hformat).2

theorem isAtMost_eq_false_of_assertMinimum {k : String} (hnumber : isNumber v = true)
    (h : assertMinimum k true value v = .none) : isAtMost v value = false := by
  simp only [assertMinimum, hnumber, Bool.not_true, if_true, Bool.false_eq_true, if_false] at h
  simpa using holds_of_expect h

/-- A number that is accepted is above a bound that does not count itself. -/
theorem Accepts.exclusiveMinimum (h : Accepts env ⟨d, sc⟩ n s v) (hnumber : isNumber v = true)
    (hsaid : Says d s .exclusiveMinimum value) : isAtMost v value = false := by
  obtain ⟨j, k, -, hkeyword⟩ := h.keyword hsaid
  exact isAtMost_eq_false_of_assertMinimum (k := k) hnumber hkeyword

/-- The same of a bound that is marked, in a dialect where it is. -/
theorem Accepts.minimum (h : Accepts env ⟨d, sc⟩ n s v) (hd : d = .draft4)
    (hnumber : isNumber v = true) (hsaid : Says d s .minimum value)
    (hmark : s.get? "exclusiveMinimum" = some (.bool true)) : isAtMost v value = false := by
  obtain ⟨j, k, -, hkeyword⟩ := h.keyword hsaid
  have hminimum : assertion env.formats d s .minimum k value v = .none := hkeyword
  subst hd
  unfold assertion at hminimum
  dsimp only at hminimum
  rw [hmark] at hminimum
  exact isAtMost_eq_false_of_assertMinimum (k := k) hnumber hminimum

end Keywords

end ContractDrift.Schema
