/-
Violations lie in the document that is evaluated.

What an evaluation finds lies in its document: the path of each violation leads to a part of it,
or to a member that the document lacks and a schema requires (`Violation.LiesIn`).  Most keywords
put their own violations down to the document as a whole, so that only the paths of the schemas
that they apply have to be followed; `locates` does this by induction on the depth.

Design notes: the schema that allows nothing puts its violation down to the document around the
part it is applied to, which is why `descend` is said to stay within the former.
-/
import ContractDrift.Proofs.Schema.Pointer
import ContractDrift.Proofs.Schema.Validation

namespace ContractDrift.Schema

open ContractDrift.Json (Value Members display)
open Findings (expect one stopped each after under)

/-- A violation is that a key is missing which its schema requires. -/
def Violation.IsAbsence (x : Violation) (v : Value) : Prop :=
  ∃ path m k, x.path = path ++ [.key k] ∧ partAt? v path = some (.object m) ∧
    Members.get? m k = none ∧ x.keyword = some "required" ∧
    x.message = Text.quoted k ++ " is a required property"

/-- The path of a violation leads to a part of a document, or to where a required member is
missing. -/
def Violation.LiesIn (x : Violation) (v : Value) : Prop :=
  (partAt? v x.path).isSome ∨ x.IsAbsence v

theorem Violation.LiesIn.fits {x : Violation} {v : Value} (h : x.LiesIn v) : Fits v x.path := by
  rcases h with h | ⟨path, m, k, hpath, hm, hk, -, -⟩
  · exact .of_partAt? h
  · exact hpath ▸ .concat hm hk

namespace Findings

/-- All violations lie in a document. -/
def LieIn (f : Findings) (v : Value) : Prop := ∀ x ∈ f.violations, x.LiesIn v

/-- All violations are put down to the document as a whole. -/
def AtTop (f : Findings) : Prop := ∀ x ∈ f.violations, x.path = []

variable {f : Findings} {v part : Value}

theorem AtTop.lieIn (h : f.AtTop) : f.LieIn v := fun x hx => by
  rw [Violation.LiesIn, h x hx]
  exact Or.inl rfl

/-- What lies in a text is put down to the text as a whole. -/
theorem LieIn.atTop_of_text {s : String} (h : f.LieIn (.text s)) : f.AtTop := by
  intro x hx
  have hfits := (h x hx).fits
  cases hp : x.path with
  | nil => rfl
  | cons step path =>
    rw [hp] at hfits
    cases hfits with
    | step hs _ => simp [stepInto?] at hs

theorem atTop_none : AtTop .none := fun _ hx => absurd hx List.not_mem_nil

theorem atTop_stopped (s : Stop) : (stopped s).AtTop := fun _ hx => absurd hx List.not_mem_nil

theorem atTop_one (k message : String) : (one k message).AtTop := fun x hx => by
  rw [List.mem_singleton.mp hx]

theorem atTop_expect (holds : Bool) (k message : String) : (expect holds k message).AtTop := by
  cases holds with
  | true => exact atTop_none
  | false => exact atTop_one k message

/-- What holds of every violation for each member of a list holds of every violation. -/
theorem forall_each {α : Type} {P : Violation → Prop} {xs : List α} {g : α → Findings}
    (h : ∀ a ∈ xs, ∀ x ∈ (g a).violations, P x) : ∀ x ∈ (each xs g).violations, P x := by
  induction xs with
  | nil => exact fun _ hx => absurd hx List.not_mem_nil
  | cons a xs ih =>
    rw [List.forall_mem_cons] at h
    intro x hx
    rw [each] at hx
    split at hx
    · exact h.1 x hx
    · rcases List.mem_append.mp hx with hx | hx
      · exact h.1 x hx
      · exact ih h.2 x hx

theorem atTop_each {α : Type} {xs : List α} {g : α → Findings} (h : ∀ a ∈ xs, (g a).AtTop) :
    (each xs g).AtTop :=
  forall_each h

theorem lieIn_each {α : Type} {xs : List α} {g : α → Findings} (h : ∀ a ∈ xs, (g a).LieIn v) :
    (each xs g).LieIn v :=
  forall_each h

theorem atTop_after {α : Type} {x : Except Stop α} {g : α → Findings} (h : ∀ a, (g a).AtTop) :
    (after x g).AtTop := by
  cases x with
  | error s => exact atTop_stopped s
  | ok a => exact h a

theorem lieIn_after {α : Type} {x : Except Stop α} {g : α → Findings}
    (h : ∀ a, x = .ok a → (g a).LieIn v) : (after x g).LieIn v := by
  cases x with
  | error s => exact (atTop_stopped s).lieIn
  | ok a => exact h a rfl

/-- What lies in a part lies in the document one step further down. -/
theorem LieIn.under {s : Step} (h : f.LieIn part) (hs : stepInto? v s = some part) :
    (under s f).LieIn v := by
  intro x hx
  obtain ⟨y, hy, rfl⟩ := List.mem_map.mp hx
  rcases h y hy with hpart | ⟨path, m, k, hpath, hm, hk⟩
  · exact Or.inl (by rwa [partAt?_cons hs])
  · refine Or.inr ⟨s :: path, m, k, ?_, by rwa [partAt?_cons hs], hk⟩
    rw [hpath, List.cons_append]

end Findings

open Findings

/-! ## Assertions -/

theorem atTop_assertNeeded (k property : String) (names : List Value) (m : Members) :
    (assertNeeded k property names m).AtTop :=
  atTop_each fun _ _ => atTop_expect _ _ _

theorem atTop_assertMinimum (k : String) (isExclusive : Bool) (bound v : Value) :
    (assertMinimum k isExclusive bound v).AtTop := by
  unfold assertMinimum
  repeat' split
  exacts [atTop_none, atTop_expect _ _ _, atTop_expect _ _ _]

theorem atTop_assertMaximum (k : String) (isExclusive : Bool) (bound v : Value) :
    (assertMaximum k isExclusive bound v).AtTop := by
  unfold assertMaximum
  repeat' split
  exacts [atTop_none, atTop_expect _ _ _, atTop_expect _ _ _]

theorem atTop_assertMultiple (k : String) (divisor v : Value) :
    (assertMultiple k divisor v).AtTop := by
  unfold assertMultiple
  split
  · exact atTop_none
  · exact atTop_after fun _ => atTop_expect _ _ _

theorem atTop_assertPattern (k : String) (pattern v : Value) :
    (assertPattern k pattern v).AtTop := by
  unfold assertPattern
  split
  · exact atTop_after fun _ => atTop_expect _ _ _
  · exact atTop_none

theorem atTop_assertFormat (checked : List Format) (k : String) (format v : Value) :
    (assertFormat checked k format v).AtTop := by
  unfold assertFormat
  repeat' split
  exacts [atTop_expect _ _ _, atTop_stopped _, atTop_none, atTop_none, atTop_none]

theorem atTop_assertRequired (k : String) (names v : Value) :
    (assertRequired k names v).AtTop := by
  unfold assertRequired
  split
  · exact atTop_each fun _ _ => atTop_expect _ _ _
  · exact atTop_none

theorem atTop_assertDependentRequired (k : String) (needs v : Value) :
    (assertDependentRequired k needs v).AtTop := by
  unfold assertDependentRequired
  split
  · refine atTop_each fun e _ => ?_
    dsimp only
    split
    · exact atTop_assertNeeded _ _ _ _
    · exact atTop_none
  · exact atTop_none

theorem atTop_assertUnique (k : String) (wanted v : Value) : (assertUnique k wanted v).AtTop := by
  unfold assertUnique
  split
  · exact atTop_expect _ _ _
  · exact atTop_none

/-- A keyword without subschemas is about the document as a whole. -/
theorem atTop_assertion (checked : List Format) (d : Dialect) (schema : Members)
    (keyword : Keyword) (k : String) (value v : Value) :
    (assertion checked d schema keyword k value v).AtTop := by
  unfold assertion
  cases keyword with
  | minimum | exclusiveMinimum => exact atTop_assertMinimum _ _ _ _
  | maximum | exclusiveMaximum => exact atTop_assertMaximum _ _ _ _
  | multipleOf => exact atTop_assertMultiple _ _ _
  | minLength | maxLength =>
    cases v with
    | text s => exact atTop_expect _ _ _
    | _ => exact atTop_none
  | minItems | maxItems =>
    cases v with
    | array xs => exact atTop_expect _ _ _
    | _ => exact atTop_none
  | minProperties | maxProperties =>
    cases v with
    | object m => exact atTop_expect _ _ _
    | _ => exact atTop_none
  | pattern => exact atTop_assertPattern _ _ _
  | format => exact atTop_assertFormat _ _ _ _
  | enum | const => exact atTop_expect _ _ _
  | type => exact atTop_after fun _ => atTop_expect _ _ _
  | required => exact atTop_assertRequired _ _ _
  | dependentRequired => exact atTop_assertDependentRequired _ _ _
  | uniqueItems => exact atTop_assertUnique _ _ _
  | _ => exact atTop_none

/-! ## Schemas -/

theorem keysOnce_text {s : String} : KeysOnce (.text s) := by
  intro path m h
  cases path with
  | nil => simp [partAt?] at h
  | cons step path => simp [partAt?, stepInto?] at h

theorem get?_of_mem {m : Members} (hm : m.keys.Nodup) {k : String} {v : Value}
    (h : (k, v) ∈ m) : m.get? k = some v := by
  induction m with
  | nil => exact absurd h List.not_mem_nil
  | cons e r ih =>
    obtain ⟨k', v'⟩ := e
    obtain ⟨hk', hr⟩ := List.nodup_cons.mp hm
    rw [Members.get?]
    rcases List.mem_cons.mp h with heq | h
    · obtain ⟨rfl, rfl⟩ := Prod.mk.inj heq
      exact if_pos rfl
    · have hne : k' ≠ k := fun e => hk' (List.mem_map.mpr ⟨(k, v), h, e.symm⟩)
      rw [if_neg hne, ih hr h]

theorem exists_get?_of_mem_keys {m : Members} {k : String} (h : k ∈ m.keys) :
    ∃ v, m.get? k = some v := by
  induction m with
  | nil => exact absurd h List.not_mem_nil
  | cons e r ih =>
    obtain ⟨k', v'⟩ := e
    by_cases hk : k' = k
    · exact ⟨v', if_pos hk⟩
    · obtain ⟨v, hv⟩ := ih ((List.mem_cons.mp h).resolve_left (Ne.symm hk))
      exact ⟨v, by rw [Members.get?, if_neg hk, hv]⟩

theorem mem_of_mem_filterAuxM {α : Type} {p : α → Except Stop Bool} {xs acc ys : List α} {a : α}
    (h : xs.filterAuxM p acc = .ok ys) (ha : a ∈ ys) : a ∈ xs ∨ a ∈ acc := by
  -- on the elements, for any that have been kept before
  induction xs generalizing acc with
  | nil =>
    obtain rfl := pure_eq_ok_iff.mp h
    exact Or.inr ha
  | cons x xs ih =>
    obtain ⟨b, -, hrest⟩ := bind_eq_ok_iff.mp h
    rcases ih hrest with hmem | hmem
    · exact Or.inl (List.mem_cons_of_mem x hmem)
    · cases b with
      | false => exact Or.inr hmem
      | true =>
        rcases List.mem_cons.mp hmem with rfl | hmem
        · exact Or.inl List.mem_cons_self
        · exact Or.inr hmem

/-- Filtering by a test that can stop keeps members of the list only. -/
theorem mem_of_mem_filterM {α : Type} {p : α → Except Stop Bool} {xs ys : List α} {a : α}
    (h : xs.filterM p = .ok ys) (ha : a ∈ ys) : a ∈ xs := by
  obtain ⟨kept, hkept, hys⟩ := bind_eq_ok_iff.mp h
  rw [pure_eq_ok_iff.mp hys, List.mem_reverse] at ha
  exact (mem_of_mem_filterAuxM hkept ha).resolve_right List.not_mem_nil

theorem mem_keys_of_additionalKeys {schema m : Members} {extra : List String} {key : String}
    (h : additionalKeys schema m = .ok extra) (hkey : key ∈ extra) : key ∈ m.keys := by
  unfold additionalKeys at h
  dsimp only at h
  split at h
  · obtain rfl := Except.ok.inj h
    exact (List.mem_filter.mp hkey).1
  · exact (List.mem_filter.mp (mem_of_mem_filterM h hkey)).1

theorem atTop_refuseAdditional (k : String) (schema : Members) (extra : List String) :
    (refuseAdditional k schema extra).AtTop := by
  unfold refuseAdditional
  dsimp only
  split <;> exact atTop_one _ _

/-- The part that a schema is applied to, seen from the document around it. -/
def enter? (v : Value) : Option Step → Option Value
  | .none => .some v
  | .some s => stepInto? v s

/-- Evaluations of a depth find violations within their documents only. -/
structure Locates (n : Nat) : Prop where
  ofDescend : ∀ (env : Setting) (f : Frame) (scope : Option Scope) (step : Option Step)
    (schema : Value) {v part : Value}, KeysOnce v → enter? v step = some part →
    (descend n env f scope step schema part).LieIn v
  ofRun : ∀ (env : Setting) (f : Frame) (around : Dialect) (schema : Value) {v : Value},
    KeysOnce v → (run n env f around schema v).LieIn v
  ofKeyword : ∀ (env : Setting) (f : Frame) (rule : Keyword) (k : String) (value : Value)
    (schema : Members) {v : Value}, KeysOnce v →
    (keyword n env f rule k value schema v).LieIn v

section Step

variable {n : Nat} (h : Locates n) (env : Setting) (f : Frame) {v part : Value}
include h

theorem Locates.whole (hv : KeysOnce v) (scope : Option Scope) (schema : Value) :
    (descend n env f scope .none schema v).LieIn v :=
  h.ofDescend env f scope .none schema hv rfl

theorem Locates.within (hv : KeysOnce v) {s : Step} (hs : stepInto? v s = some part)
    (schema : Value) : (descend n env f .none (some s) schema part).LieIn v :=
  h.ofDescend env f .none (some s) schema hv hs

theorem Locates.items {xs : List Value} (hv : KeysOnce (.array xs)) (schema : Value)
    (skipped : Nat) :
    (each (xs.zipIdx.drop skipped) fun (x, i) =>
      descend n env f .none (some (.index i)) schema x).LieIn (.array xs) := by
  refine lieIn_each fun (x, i) he => h.within env f hv ?_ schema
  exact List.mk_mem_zipIdx_iff_getElem?.mp (List.mem_of_mem_drop he)

theorem Locates.itemsEach {xs : List Value} (hv : KeysOnce (.array xs)) (schemas : List Value) :
    (each (xs.zip schemas).zipIdx fun ((x, s), i) =>
      descend n env f .none (some (.index i)) s x).LieIn (.array xs) := by
  refine lieIn_each fun ((x, s), i) he => h.within env f hv ?_ s
  have hpair := List.mk_mem_zipIdx_iff_getElem?.mp he
  exact (List.getElem?_zip_eq_some.mp hpair).1

theorem Locates.reference (hv : KeysOnce v) {toStop : LookupFault → Stop}
    (found : Except LookupFault (Value × Scope)) :
    Findings.LieIn (match found with
      | .ok (target, scope) => descend n env f (some scope) .none target v
      | .error e => stopped (toStop e)) v := by
  cases found with
  | ok target => exact h.whole env f hv _ _
  | error e => exact (atTop_stopped _).lieIn

theorem Locates.properties {m : Members} (hv : KeysOnce (.object m)) (k : String) (value : Value)
    (schema : Members) :
    (keyword (n + 1) env f .properties k value schema (.object m)).LieIn (.object m) := by
  rw [keyword]
  refine lieIn_each fun (property, s) _ => ?_
  dsimp only
  cases hpart : Members.get? m property with
  | some part => exact h.within (s := .key property) env f hv hpart s
  | none =>
    dsimp only
    split
    · -- the dialect whose properties say of themselves that they are required
      intro x hx
      obtain rfl := List.mem_singleton.mp hx
      exact Or.inr ⟨[], m, property, rfl, rfl, hpart, rfl, rfl⟩
    · exact atTop_none.lieIn

theorem Locates.patternProperties {m : Members} (hv : KeysOnce (.object m)) (k : String)
    (value : Value) (schema : Members) :
    (keyword (n + 1) env f .patternProperties k value schema (.object m)).LieIn (.object m) := by
  rw [keyword]
  refine lieIn_each fun (pattern, s) _ => lieIn_each fun (key, part) hmem => ?_
  refine lieIn_after fun found _ => ?_
  split
  · exact h.within (s := .key key) env f hv (get?_of_mem hv.keys hmem) s
  · exact atTop_none.lieIn

theorem Locates.propertyNames {m : Members} (k : String) (value : Value) (schema : Members) :
    (keyword (n + 1) env f .propertyNames k value schema (.object m)).LieIn (.object m) := by
  rw [keyword]
  exact lieIn_each fun (key, _) _ => (h.whole env f keysOnce_text _ _).atTop_of_text.lieIn

theorem Locates.additionalProperties {m : Members} (hv : KeysOnce (.object m)) (k : String)
    (value : Value) (schema : Members) :
    (keyword (n + 1) env f .additionalProperties k value schema (.object m)).LieIn (.object m) := by
  rw [keyword]
  refine lieIn_after fun extra hextra => ?_
  split
  · refine lieIn_each fun key hkey => ?_
    obtain ⟨part, hpart⟩ := exists_get?_of_mem_keys (mem_keys_of_additionalKeys hextra hkey)
    rw [hpart]
    exact h.within (s := .key key) env f hv hpart _
  · split
    · exact atTop_none.lieIn
    · exact (atTop_refuseAdditional _ _ _).lieIn

theorem Locates.dependencies {m : Members} (hv : KeysOnce (.object m)) (k : String)
    (value : Value) (schema : Members) :
    (keyword (n + 1) env f .dependencies k value schema (.object m)).LieIn (.object m) := by
  rw [keyword]
  refine lieIn_each fun (property, need) _ => ?_
  dsimp only
  split
  · exact atTop_none.lieIn
  · split
    · exact (atTop_assertNeeded _ _ _ _).lieIn
    · split
      · exact (atTop_assertNeeded _ _ _ _).lieIn
      · exact atTop_none.lieIn
    · exact h.whole env f hv _ _

theorem Locates.dependentSchemas {m : Members} (hv : KeysOnce (.object m)) (k : String)
    (value : Value) (schema : Members) :
    (keyword (n + 1) env f .dependentSchemas k value schema (.object m)).LieIn (.object m) := by
  rw [keyword]
  refine lieIn_each fun (property, s) _ => ?_
  dsimp only
  split
  · exact h.whole env f hv _ _
  · exact atTop_none.lieIn

theorem Locates.itemsKeyword {xs : List Value} (hv : KeysOnce (.array xs)) (k : String)
    (value : Value) (schema : Members) :
    (keyword (n + 1) env f .items k value schema (.array xs)).LieIn (.array xs) := by
  unfold keyword
  dsimp only
  split
  · split
    · exact (atTop_expect _ _ _).lieIn
    · exact h.items env f hv _ _
  · split
    · exact h.itemsEach env f hv _
    · exact h.items env f hv value 0

theorem Locates.additionalItems {xs : List Value} (hv : KeysOnce (.array xs)) (k : String)
    (value : Value) (schema : Members) :
    (keyword (n + 1) env f .additionalItems k value schema (.array xs)).LieIn (.array xs) := by
  rw [keyword]
  split
  · exact atTop_none.lieIn
  · refine lieIn_after fun count _ => ?_
    split
    · exact h.items env f hv _ _
    · exact (atTop_expect _ _ _).lieIn

end Step

theorem locates_descend {n : Nat} (h : Locates n) (env : Setting) (f : Frame)
    (scope : Option Scope) (step : Option Step) (schema : Value) {v part : Value}
    (hv : KeysOnce v) (hpart : enter? v step = some part) :
    (descend (n + 1) env f scope step schema part).LieIn v := by
  unfold descend
  split
  · exact atTop_none.lieIn
  · -- whatever part it is applied to, the schema that allows nothing blames the document
    refine AtTop.lieIn fun x hx => ?_
    rw [List.mem_singleton.mp hx]
  · cases step with
    | none =>
      obtain rfl : v = part := Option.some.inj hpart
      exact h.ofRun _ _ _ _ hv
    | some s => exact (h.ofRun _ _ _ _ (hv.inPart hpart)).under hpart

theorem locates_run {n : Nat} (h : Locates n) (env : Setting) (f : Frame) (around : Dialect)
    (schema : Value) {v : Value} (hv : KeysOnce v) :
    (run (n + 1) env f around schema v).LieIn v := by
  unfold run
  split
  · refine lieIn_each fun (k, value) _ => ?_
    dsimp only
    split
    · exact h.ofKeyword _ _ _ _ _ _ hv
    · exact atTop_none.lieIn
  · exact atTop_none.lieIn

/-- Only the keywords that apply schemas find violations elsewhere than at the top. -/
theorem locates_keyword {n : Nat} (h : Locates n) (env : Setting) (f : Frame) (rule : Keyword)
    (k : String) (value : Value) (schema : Members) {v : Value} (hv : KeysOnce v) :
    (keyword (n + 1) env f rule k value schema v).LieIn v := by
  -- what is no object, or no array, is not descended into by the keywords for these
  have hassertion : (assertion env.formats f.dialect schema rule k value v).LieIn v :=
    (atTop_assertion _ _ _ _ _ _ _).lieIn
  cases rule with
  | ref | dynamicRef =>
    unfold keyword
    dsimp only
    split
    · exact h.reference env f hv _
    · exact atTop_none.lieIn
  | recursiveRef =>
    rw [keyword]
    exact h.reference env f hv _
  | allOf =>
    rw [keyword]
    exact lieIn_each fun s _ => h.whole env f hv _ _
  | anyOf | not =>
    rw [keyword]
    exact (atTop_after fun _ => atTop_expect _ _ _).lieIn
  | oneOf =>
    rw [keyword]
    refine AtTop.lieIn (atTop_after fun found => ?_)
    split
    · exact atTop_one _ _
    · exact atTop_after fun _ => atTop_expect _ _ _
  | condition =>
    rw [keyword]
    refine lieIn_after fun ok _ => ?_
    split
    · exact h.whole env f hv _ _
    · exact atTop_none.lieIn
  | base =>
    unfold keyword
    dsimp only
    split
    · exact h.whole env f hv _ _
    · exact lieIn_each fun s _ => h.whole env f hv _ _
  | disallow =>
    rw [keyword]
    exact (atTop_each fun _ _ => atTop_after fun _ => atTop_expect _ _ _).lieIn
  | type =>
    rw [keyword]
    split
    · exact (atTop_after fun _ => atTop_expect _ _ _).lieIn
    · exact hassertion
  | properties =>
    cases v with
    | object m => exact h.properties env f hv k value schema
    | _ => exact hassertion
  | patternProperties =>
    cases v with
    | object m => exact h.patternProperties env f hv k value schema
    | _ => exact hassertion
  | propertyNames =>
    cases v with
    | object m => exact h.propertyNames env f k value schema
    | _ => exact hassertion
  | additionalProperties =>
    cases v with
    | object m => exact h.additionalProperties env f hv k value schema
    | _ => exact hassertion
  | dependencies =>
    cases v with
    | object m => exact h.dependencies env f hv k value schema
    | _ => exact hassertion
  | dependentSchemas =>
    cases v with
    | object m => exact h.dependentSchemas env f hv k value schema
    | _ => exact hassertion
  | unevaluatedProperties =>
    cases v with
    | object m =>
      rw [keyword]
      refine AtTop.lieIn (atTop_after fun _ => atTop_after fun bad => ?_)
      split
      · exact atTop_none
      · split <;> exact atTop_one _ _
    | _ => exact hassertion
  | prefixItems =>
    cases v with
    | array xs =>
      rw [keyword]
      exact h.itemsEach env f hv _
    | _ => exact hassertion
  | items =>
    cases v with
    | array xs => exact h.itemsKeyword env f hv k value schema
    | _ => exact hassertion
  | additionalItems =>
    cases v with
    | array xs => exact h.additionalItems env f hv k value schema
    | _ => exact hassertion
  | contains =>
    cases v with
    | array xs =>
      rw [keyword]
      split
      · exact (atTop_after fun _ => atTop_expect _ _ _).lieIn
      · refine AtTop.lieIn (atTop_after fun _ => ?_)
        dsimp only
        repeat' split
        exacts [atTop_one _ _, atTop_none, atTop_one _ _, atTop_one _ _]
    | _ => exact hassertion
  | unevaluatedItems =>
    cases v with
    | array xs =>
      rw [keyword]
      exact (atTop_after fun _ => atTop_expect _ _ _).lieIn
    | _ => exact hassertion
  | _ => exact hassertion

/-- Evaluations find violations within their documents only. -/
theorem locates (n : Nat) : Locates n := by
  induction n with
  | zero =>
    constructor <;> intros <;> exact (atTop_stopped _).lieIn
  | succ n ih =>
    exact ⟨locates_descend ih, locates_run ih, locates_keyword ih⟩

/-! ## Verdicts -/

theorem lieIn_evaluate (formats : List Format) (d : Dialect) (schema : Value) {v : Value}
    (hv : KeysOnce v) : (evaluate formats d schema v).LieIn v :=
  (locates depthLimit).ofRun _ _ _ _ hv

theorem liesIn_of_validate {r : Registry} {id : String} {v : Value} {verdict : Verdict}
    (hv : KeysOnce v) (h : r.validate id v = .ok verdict) {x : Violation}
    (hx : x ∈ verdict.violations) : x.LiesIn v := by
  obtain ⟨c, -, -, rfl⟩ := Registry.validate_eq_ok_iff.mp h
  rw [List.mem_mergeSort] at hx
  exact lieIn_evaluate _ _ _ hv x hx

/-- The path of each violation of a verdict lies in the document, and its place, read as a JSON
pointer, points there exactly if the path leads to a part and its keys hold neither a slash nor a
tilde.  Violations whose keys hold no slash have one place only if they have one path. -/
theorem validate_places (r : Registry) {id : String} {v : Value} (hv : KeysOnce v)
    {verdict : Verdict} (h : r.validate id v = .ok verdict) :
    (∀ x ∈ verdict.violations, x.LiesIn v ∧
      (pointed? v x.place = some x.path ↔ (partAt? v x.path).isSome ∧ IsPlainPath x.path)) ∧
    ∀ x ∈ verdict.violations, ∀ y ∈ verdict.violations, KeysLack '/' x.path →
      KeysLack '/' y.path → x.place = y.place → x.path = y.path := by
  refine ⟨fun x hx => ⟨liesIn_of_validate hv h hx, pointed?_placeOf_iff⟩, ?_⟩
  intro x hx y hy hslash hslash' hplace
  have hfits := (liesIn_of_validate hv h hx).fits
  have hfits' := (liesIn_of_validate hv h hy).fits
  exact eq_of_placeOf_eq hfits hfits' hslash hslash' hplace

/-- A schema for the value of a key that holds a slash, and for one that lies deeper. -/
def slashSchema : Members :=
  [("properties", .object
    [("a/b", .object [("type", .text "string")]),
     ("a", .object [("properties", .object [("b", .object [("type", .text "string")])])])])]

/-- A registry with that schema alone. -/
def slashRegistry : Registry := Registry.empty.insert ⟨"s", Compiled.ofDocument slashSchema⟩

/-- A document with a number in both places. -/
def slashDocument : Value := .object [("a/b", .int 1), ("a", .object [("b", .int 2)])]

theorem keysOnce_slashDocument : KeysOnce slashDocument := by
  have hleaf (n : Int) : KeysOnce (.int n) := keysOnce_leaf rfl
  refine keysOnce_object (by decide) fun k v hv => ?_
  simp only [Members.get?] at hv
  split at hv
  · exact Option.some.inj hv ▸ hleaf 1
  · split at hv
    · refine Option.some.inj hv ▸ keysOnce_object (by decide) fun k v hv => ?_
      simp only [Members.get?] at hv
      split at hv
      · exact Option.some.inj hv ▸ hleaf 2
      · cases hv
    · cases hv

theorem validate_slashDocument : ∃ found : List Violation,
    slashRegistry.validate "s" slashDocument = .ok ⟨found.mergeSort Violation.le, "s"⟩ ∧
      found.map (·.path) = [[.key "a/b"], [.key "a", .key "b"]] := by
  have hget : slashRegistry.get "s" = .ok (Compiled.ofDocument slashSchema) := rfl
  have hstop : ((Compiled.ofDocument slashSchema).findings slashDocument).stop = .none := by
    decide +kernel
  exact ⟨_, Registry.validate_eq_ok_iff.mpr ⟨_, hget, hstop, rfl⟩, by decide +kernel⟩

/-- The two numbers have one place, and it points to the deeper one. -/
theorem validate_places_slash :
    KeysOnce slashDocument ∧ ∃ verdict, slashRegistry.validate "s" slashDocument = .ok verdict ∧
      ∃ x ∈ verdict.violations, ∃ y ∈ verdict.violations, x.path = [.key "a/b"] ∧
        y.path = [.key "a", .key "b"] ∧ x.place = y.place ∧
        pointed? slashDocument x.place = some y.path := by
  obtain ⟨found, hvalidate, hpaths⟩ := validate_slashDocument
  have hplaces := (validate_places slashRegistry keysOnce_slashDocument hvalidate).1
  -- the verdict has the violations in order, which keeps both of them
  have hmem (path : List Step) (hpath : path ∈ [[.key "a/b"], [.key "a", .key "b"]]) :
      ∃ x ∈ found.mergeSort Violation.le, x.path = path := by
    rw [← hpaths] at hpath
    obtain ⟨x, hx, hxpath⟩ := List.mem_map.mp hpath
    exact ⟨x, List.mem_mergeSort.mpr hx, hxpath⟩
  obtain ⟨x, hx, hxpath⟩ := hmem [.key "a/b"] (by simp)
  obtain ⟨y, hy, hypath⟩ := hmem [.key "a", .key "b"] (by simp)
  have hplace : x.place = y.place := by
    rw [Violation.place_eq, Violation.place_eq, hxpath, hypath]
    decide
  refine ⟨keysOnce_slashDocument, _, hvalidate, x, hx, y, hy, hxpath, hypath, hplace, ?_⟩
  rw [hplace]
  refine (hplaces y hy).2.mpr ?_
  rw [hypath]
  exact ⟨rfl, by simp [KeysLack], by simp [KeysLack]⟩

end ContractDrift.Schema
