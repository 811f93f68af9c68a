/-
An evaluation stops only for a cause.

If the evaluation of a document against a schema stops, then schemas are applied too deep one
inside the other, or one that is reached is at fault (`cause_of_stop`).  A loop over a list stops
only where one of its members does, and one step of the evaluation only where a fault of the
schema or an evaluation one level down does; the rest is an induction on the depth (`causes`).
-/
import Mathlib.Data.List.Basic
import ContractDrift.Proofs.Schema.Causes
import ContractDrift.Proofs.Schema.Validation

namespace ContractDrift.Schema

open ContractDrift.Json (Value Members display)
open Findings (expect one stopped each after under)

/-! ## Loops -/

section Loops

variable {α β : Type} {s : Stop} {xs : List α}

theorem stop_each {g : α → Findings} (h : (each xs g).stop = some s) :
    ∃ a ∈ xs, (g a).stop = some s := by
  induction xs with
  | nil => exact nomatch h
  | cons a xs ih =>
    rw [each] at h
    split at h
    · exact ⟨a, List.mem_cons_self, h⟩
    · obtain ⟨b, hb, hstop⟩ := ih h
      exact ⟨b, List.mem_cons_of_mem a hb, hstop⟩

theorem stop_after {x : Except Stop α} {g : α → Findings} (h : (after x g).stop = some s) :
    x = .error s ∨ ∃ a, x = .ok a ∧ (g a).stop = some s := by
  cases x with
  | error e => exact .inl (congrArg _ (Option.some.inj h))
  | ok a => exact .inr ⟨a, rfl, h⟩

theorem stop_expect {holds : Bool} {k message : String} :
    (expect holds k message).stop = .none := by
  cases holds <;> rfl

/-- An assertion on what a step gives does not stop, so it is the step that has. -/
theorem error_of_after_expect {x : Except Stop α} {holds : α → Bool} {k message : α → String}
    (h : (after x fun a => expect (holds a) (k a) (message a)).stop = some s) : x = .error s := by
  rcases stop_after h with hx | ⟨a, -, ha⟩
  · exact hx
  · exact nomatch ha.symm.trans stop_expect

theorem error_of_isClean {f : Findings} (h : f.isClean = .error s) : f.stop = some s := by
  unfold Findings.isClean at h
  split at h <;> simp_all

theorem error_of_unless {p : Prop} [Decidable p] {a : α} {x : Except Stop α}
    (h : (if p then pure a else x) = .error s) : x = .error s := by
  split at h
  · exact absurd h pure_ne_error
  · exact h

/-- A loop whose first call fails, or that fails behind it, fails for a call on one of its
elements. -/
theorem error_of_bind_cons {γ δ : Type} {f : α → Except Stop γ} {rest : γ → Except Stop δ} {a : α}
    (h : (f a >>= rest) = .error s)
    (hrest : ∀ c, rest c = .error s → ∃ b ∈ xs, f b = .error s) :
    ∃ b ∈ a :: xs, f b = .error s := by
  rcases bind_eq_error_iff.mp h with ha | ⟨c, -, hc⟩
  · exact ⟨a, List.mem_cons_self, ha⟩
  · obtain ⟨b, hb, hstop⟩ := hrest c hc
    exact ⟨b, List.mem_cons_of_mem a hb, hstop⟩

theorem error_of_anyM {p : α → Except Stop Bool} (h : xs.anyM p = .error s) :
    ∃ a ∈ xs, p a = .error s := by
  induction xs with
  | nil => exact nomatch h
  | cons a xs ih =>
    rw [List.anyM] at h
    refine error_of_bind_cons h fun found hrest => ?_
    cases found with
    | true => exact absurd hrest pure_ne_error
    | false => exact ih hrest

theorem error_of_filterAuxM {p : α → Except Stop Bool} {acc : List α}
    (h : xs.filterAuxM p acc = .error s) : ∃ a ∈ xs, p a = .error s := by
  induction xs generalizing acc with
  | nil => exact absurd h pure_ne_error
  | cons a xs ih => exact error_of_bind_cons h fun _ => ih

theorem error_of_filterM {p : α → Except Stop Bool} (h : xs.filterM p = .error s) :
    ∃ a ∈ xs, p a = .error s := by
  rcases bind_eq_error_iff.mp h with hloop | ⟨_, -, hreverse⟩
  · exact error_of_filterAuxM hloop
  · exact absurd hreverse pure_ne_error

theorem error_of_firstPassing {p : Value → Except Stop Bool} {xs : List Value}
    (h : firstPassing p xs = .error s) : ∃ a ∈ xs, p a = .error s := by
  induction xs with
  | nil => exact absurd h pure_ne_error
  | cons a xs ih =>
    rw [firstPassing] at h
    refine error_of_bind_cons h fun passes hrest => ?_
    cases passes with
    | true => exact absurd hrest pure_ne_error
    | false => exact ih hrest

theorem mem_of_firstPassing {p : Value → Except Stop Bool} {xs rest : List Value} {a b : Value}
    (h : firstPassing p xs = .ok (some (a, rest))) (hb : b ∈ rest) : b ∈ xs := by
  induction xs with
  | nil => exact nomatch h
  | cons c xs ih =>
    rw [firstPassing] at h
    obtain ⟨ok, -, hrest⟩ := bind_eq_ok_iff.mp h
    cases ok with
    | true =>
      obtain ⟨-, rfl⟩ := Prod.mk.inj (Option.some.inj (pure_eq_ok_iff.mp hrest))
      exact List.mem_cons_of_mem c hb
    | false => exact List.mem_cons_of_mem c (ih hrest)

theorem error_of_countPassing {isOver : Nat → Bool} {p : Value → Except Stop Bool} {count : Nat}
    {xs : List Value} (h : countPassing isOver p count xs = .error s) :
    ∃ a ∈ xs, p a = .error s := by
  -- the count grows on the way, so it is general
  induction xs generalizing count with
  | nil => exact absurd h pure_ne_error
  | cons a xs ih =>
    rw [countPassing] at h
    refine error_of_bind_cons h fun passes hrest => ?_
    cases passes with
    | false => exact ih hrest
    | true =>
      rw [if_pos rfl] at hrest
      split at hrest
      · exact absurd hrest pure_ne_error
      · exact ih hrest

theorem error_of_indexesPassing {p : Value → Except Stop Bool} {from_ : Nat} {xs : List Value}
    (h : indexesPassing p from_ xs = .error s) : ∃ a ∈ xs, p a = .error s := by
  induction xs generalizing from_ with
  | nil => exact absurd h pure_ne_error
  | cons a xs ih =>
    rw [indexesPassing] at h
    exact error_of_bind_cons h fun _ hrest => ih (error_of_bind_pure hrest)

theorem error_of_gather {f : α → Except Stop (List β)} (h : gather f xs = .error s) :
    ∃ a ∈ xs, f a = .error s := by
  induction xs with
  | nil => exact absurd h pure_ne_error
  | cons a xs ih =>
    rw [gather] at h
    exact error_of_bind_cons h fun _ hrest => ih (error_of_bind_pure hrest)

theorem mem_of_gather {f : α → Except Stop (List β)} {ys : List β} {b : β}
    (h : gather f xs = .ok ys) (hb : b ∈ ys) : ∃ a ∈ xs, ∃ zs, f a = .ok zs ∧ b ∈ zs := by
  induction xs generalizing ys with
  | nil =>
    rw [gather, pure_eq_ok_iff] at h
    exact absurd (h ▸ hb) List.not_mem_nil
  | cons a xs ih =>
    rw [gather] at h
    obtain ⟨zs, hzs, hrest⟩ := bind_eq_ok_iff.mp h
    obtain ⟨rest, htail, hpure⟩ := bind_eq_ok_iff.mp hrest
    rw [pure_eq_ok_iff.mp hpure] at hb
    rcases List.mem_append.mp hb with hb | hb
    · exact ⟨a, List.mem_cons_self, zs, hzs, hb⟩
    · obtain ⟨c, hc, hfound⟩ := ih htail hb
      exact ⟨c, List.mem_cons_of_mem a hc, hfound⟩

end Loops

/-! ## What a schema says -/

section Says

variable {d : Dialect} {m : Members} {rule : Keyword} {k : String} {value : Value}

theorem mem_of_get? (h : m.get? k = some value) : (k, value) ∈ m := by
  induction m with
  | nil => exact nomatch h
  | cons e r ih =>
    obtain ⟨k', v'⟩ := e
    rw [Members.get?] at h
    split at h
    · rename_i hk
      rw [← hk, ← Option.some.inj h]
      exact List.mem_cons_self
    · exact List.mem_cons_of_mem _ (ih h)

theorem exists_members {e : String × Value} (h : e ∈ value.members?.getD []) :
    ∃ names, value = .object names ∧ e ∈ names := by
  cases value with
  | object names => exact ⟨names, rfl, h⟩
  | _ => exact nomatch h

theorem exists_get?_members {e : String × Value}
    (h : e ∈ ((m.get? k).bind Value.members?).getD []) :
    ∃ names, m.get? k = some (.object names) ∧ e ∈ names := by
  cases hget : m.get? k with
  | none =>
    rw [hget] at h
    exact nomatch h
  | some value =>
    rw [hget] at h
    obtain ⟨names, rfl, hmem⟩ := exists_members h
    exact ⟨names, rfl, hmem⟩

/-- The dialects in which keywords can ask what others have evaluated. -/
def IsModern (d : Dialect) : Prop := d = .draft2019 ∨ d = .draft2020

theorem says_of_get? (hd : IsModern d) (h : m.get? k = some value)
    (hk : d.keyword? k = some rule) : Says d m rule value := by
  refine ⟨k, ?_, hk⟩
  have hall : applicable d m = m := by rcases hd with rfl | rfl <;> rfl
  rw [hall]
  exact mem_of_get? h

/-- A keyword of the dialects that ask is said wherever it stands, whichever of them it is. -/
theorem IsModern.says_of_get? (hd : IsModern d) (h : m.get? k = some value)
    (h2019 : Dialect.keyword? .draft2019 k = some rule)
    (h2020 : Dialect.keyword? .draft2020 k = some rule) : Says d m rule value := by
  rcases hd with rfl | rfl
  · exact says_of_get? (.inl rfl) h h2019
  · exact says_of_get? (.inr rfl) h h2020

theorem mem_keywords (h : d.keyword? k = some rule) : (k, rule) ∈ d.keywords := by
  obtain ⟨l₁, l₂, hsplit, -⟩ := List.lookup_eq_some_iff.mp h
  exact hsplit ▸ List.mem_append_right l₁ List.mem_cons_self

theorem isModern_of_keyword? (h : d.keyword? k = some rule)
    (hrule : rule = .unevaluatedItems ∨ rule = .unevaluatedProperties) : IsModern d := by
  have hmem := mem_keywords h
  rcases hrule with rfl | rfl <;> cases d <;>
    first | exact .inl rfl | exact .inr rfl | (exfalso; revert hmem; simp [Dialect.keywords,
      Dialect.sharedKeywords, Dialect.laterKeywords, Dialect.modernKeywords])

end Says

/-! ## Assertions -/

section Assertions

variable {x : Index} {d : Dialect} {sc : Scope} {m : Members} {value v : Value} {s : Stop}

theorem error_of_patternFound {p t : String} (h : patternFound p t = .error s) :
    ∃ e, Pattern.Regex.parse p = .error e ∧ s = .pattern e := by
  unfold patternFound at h
  split at h
  · exact nomatch h
  · rename_i e he
    exact ⟨e, he, (Except.error.inj h).symm⟩

theorem not_mem_typeNames {name : String} (h : d.isType? name v = none) : name ∉ typeNames d := by
  unfold Dialect.isType? at h
  split at h
  -- only a value and a name that go together in no other case can be answered with nothing
  any_goals cases h
  split at h
  · exact nomatch h
  · rename_i hname
    split at h
    · exact nomatch h
    · rename_i hany
      rw [List.contains_iff_mem] at hname
      rw [typeNames, List.mem_append, not_or]
      refine ⟨hname, fun hmem => hany ?_⟩
      split at hmem
      · rename_i hd
        rw [hd, List.mem_singleton.mp hmem]
        rfl
      · exact absurd hmem List.not_mem_nil

theorem error_of_isOfType {type : Value} (h : isOfType d (.object m) v type = .error s)
    (hobject : type.isObject = true → d ≠ .draft3) :
    IsUnknownType d type ∧ s = .unknownType type (.object m) v := by
  unfold isOfType at h
  split at h
  · split at h
    · cases h
    · rename_i hname
      exact ⟨not_mem_typeNames hname, (Except.error.inj h).symm⟩
  · rename_i htext
    refine ⟨?_, (Except.error.inj h).symm⟩
    cases type with
    | text name => exact absurd rfl (htext name)
    | object n => exact hobject rfl
    | _ => trivial

theorem stop_exactMultiple {y b : Float} {negative : Bool} {a : Nat} {e : Int}
    (hy : Decimal.Binary64.ofFloat y = .finite negative a e) :
    isExactMultiple (.real y) b ≠ .error s := by
  unfold isExactMultiple
  cases Decimal.Binary64.ofFloat b with
  | finite => simp [hy]
  | _ => exact nofun

/-- A float can be divided by an integer that is no zero, unless the latter is too large. -/
theorem stop_floatByInteger {y : Float} {n : Int} (hn : n ≠ 0)
    (h : isMultipleOf (.real y) (.int n) = .error s) : Decimal.ofInt? n = none := by
  unfold isMultipleOf at h
  dsimp only at h
  rw [if_neg hn] at h
  rcases bind_eq_error_iff.mp h with hfloat | ⟨b, -, h⟩
  · unfold floatOf at hfloat
    dsimp only at hfloat
    split at hfloat
    · exact nomatch hfloat
    · assumption
  · split at h
    · rename_i hy
      exact absurd h (stop_exactMultiple hy)
    · exact absurd h pure_ne_error

theorem fault_of_isMultipleOf (h : Says d m .multipleOf value)
    (hstop : isMultipleOf v value = .error s) : CheckedFault d m s ∨ UncheckedFault x d sc m s := by
  cases value with
  | real y => exact .inr (.divisor h trivial)
  | int n =>
    -- a zero is what the check of a schema finds, and the rest it does not look for
    by_cases hn : n = 0
    · subst hn
      refine .inl ?_
      cases v with
      | int a =>
        rw [← Except.error.inj hstop]
        exact .zeroDivisor h
      | real y =>
        rw [← Except.error.inj hstop]
        exact .zeroDivisor h
      | _ => exact nomatch hstop
    · cases v with
      | int a =>
        rw [isMultipleOf, if_neg hn] at hstop
        exact nomatch hstop
      | real y =>
        exact .inr (.divisor h (stop_floatByInteger hn hstop))
      | _ => exact nomatch hstop
  | _ => cases v <;> exact nomatch hstop

theorem stop_assertMinimum {k : String} {isExclusive : Bool} {bound : Value} :
    (assertMinimum k isExclusive bound v).stop = .none := by
  unfold assertMinimum
  repeat' split
  exacts [rfl, stop_expect, stop_expect]

theorem stop_assertMaximum {k : String} {isExclusive : Bool} {bound : Value} :
    (assertMaximum k isExclusive bound v).stop = .none := by
  unfold assertMaximum
  repeat' split
  exacts [rfl, stop_expect, stop_expect]

theorem stop_each_eq_none {α : Type} {xs : List α} {g : α → Findings}
    (h : ∀ a ∈ xs, (g a).stop = .none) : (each xs g).stop = .none := by
  rw [Option.eq_none_iff_forall_ne_some]
  intro s hs
  obtain ⟨a, ha, hstop⟩ := stop_each hs
  exact nomatch hstop.symm.trans (h a ha)

theorem stop_assertNeeded {k property : String} {names : List Value} :
    (assertNeeded k property names m).stop = .none :=
  stop_each_eq_none fun _ _ => stop_expect

theorem stop_assertRequired {k : String} {names : Value} :
    (assertRequired k names v).stop = .none := by
  unfold assertRequired
  split
  · exact stop_each_eq_none fun _ _ => stop_expect
  · rfl

theorem stop_assertDependentRequired {k : String} {needs : Value} :
    (assertDependentRequired k needs v).stop = .none := by
  unfold assertDependentRequired
  split
  · refine stop_each_eq_none fun e _ => ?_
    dsimp only
    split
    · exact stop_assertNeeded
    · rfl
  · rfl

theorem stop_assertUnique {k : String} {wanted : Value} :
    (assertUnique k wanted v).stop = .none := by
  unfold assertUnique
  split
  · exact stop_expect
  · rfl

theorem error_of_check {f : Format} {text : String} {e : Pattern.ReadError}
    (h : f.check text = .error e) :
    f = .regex ∧ Pattern.Regex.parse text = .error e ∧ e.fault.isWriting = false := by
  -- the other formats are told without reading, so they cannot fail
  cases f with
  | regex =>
    unfold Format.check at h
    dsimp only at h
    split at h
    · exact absurd h pure_ne_error
    · rename_i e' he'
      split at h
      · exact absurd h pure_ne_error
      · rename_i hstrange
        obtain rfl : e' = e := Except.error.inj h
        exact ⟨rfl, he', by simpa using hstrange⟩
  | _ => exact absurd h pure_ne_error

theorem eq_of_lookup_named {name : String} (h : Format.named.lookup name = some .regex) :
    name = "regex" := by
  obtain ⟨l₁, l₂, hsplit, -⟩ := List.lookup_eq_some_iff.mp h
  have hmem : (name, Format.regex) ∈ Format.named :=
    hsplit ▸ List.mem_append_right l₁ List.mem_cons_self
  simpa [Format.named] using hmem

theorem fault_of_assertFormat {checked : List Format} {k : String} (h : Says d m .format value)
    (hstop : (assertFormat checked k value v).stop = some s) : UncheckedFault x d sc m s := by
  unfold assertFormat at hstop
  split at hstop
  · rename_i name text
    split at hstop
    · rename_i f hnamed
      split at hstop
      · split at hstop
        · exact nomatch hstop.symm.trans stop_expect
        · rename_i e he
          obtain ⟨rfl, hparse, hstrange⟩ := error_of_check he
          obtain rfl := eq_of_lookup_named hnamed
          rw [← Option.some.inj hstop]
          exact .patternFormat h hparse hstrange
      · exact nomatch hstop
    · exact nomatch hstop
  · exact nomatch hstop

/-- An assertion stops only for a fault of its schema. -/
theorem fault_of_assertion {checked : List Format} {rule : Keyword} {k : String}
    (h : Says d m rule value) (hd : rule = .type → d ≠ .draft3)
    (hstop : (assertion checked d m rule k value v).stop = some s) :
    CheckedFault d m s ∨ UncheckedFault x d sc m s := by
  -- multiples, patterns, formats and types take steps that can fail; all others only compare
  unfold assertion at hstop
  cases rule with
  | multipleOf =>
    dsimp only at hstop
    unfold assertMultiple at hstop
    split at hstop
    · exact nomatch hstop
    · have herror := error_of_after_expect hstop
      exact fault_of_isMultipleOf h herror
  | pattern =>
    dsimp only at hstop
    unfold assertPattern at hstop
    split at hstop
    · have herror := error_of_after_expect hstop
      obtain ⟨e, he, rfl⟩ := error_of_patternFound herror
      exact .inl (.pattern h he)
    · exact nomatch hstop
  | format => exact .inr (fault_of_assertFormat h hstop)
  | type =>
    have herror := error_of_after_expect hstop
    obtain ⟨type, htype, herror⟩ := error_of_anyM herror
    obtain ⟨hunknown, rfl⟩ := error_of_isOfType herror fun _ => hd rfl
    exact .inl (.type h htype hunknown)
  | minimum | exclusiveMinimum => exact nomatch hstop.symm.trans stop_assertMinimum
  | maximum | exclusiveMaximum => exact nomatch hstop.symm.trans stop_assertMaximum
  | required => exact nomatch hstop.symm.trans stop_assertRequired
  | dependentRequired => exact nomatch hstop.symm.trans stop_assertDependentRequired
  | uniqueItems => exact nomatch hstop.symm.trans stop_assertUnique
  | enum | const => exact nomatch hstop.symm.trans stop_expect
  | minLength | maxLength | minItems | maxItems | minProperties | maxProperties =>
    cases v
    all_goals first
      | cases hstop
      | cases hstop.symm.trans stop_expect
  | _ => exact nomatch hstop

end Assertions

theorem fault_of_additionalKeys {doc : Members} (h : Says d m .additionalProperties value)
    (hstop : additionalKeys m doc = .error s) : UncheckedFault x d sc m s := by
  unfold additionalKeys at hstop
  dsimp only at hstop
  split at hstop
  · exact nomatch hstop
  · rename_i hjoined
    obtain ⟨key, -, hstop⟩ := error_of_filterM hstop
    have herror := error_of_bind_pure hstop
    obtain ⟨e, he, rfl⟩ := error_of_patternFound herror
    cases hpatterns : (m.get? "patternProperties").bind Value.members? with
    | none => exact absurd (by rw [hpatterns]; rfl) hjoined
    | some names =>
      obtain ⟨patterns, hget, hnames⟩ := Option.bind_eq_some_iff.mp hpatterns
      rw [hpatterns] at he
      cases patterns with
      | object members =>
        obtain rfl := Option.some.inj hnames
        exact .joinedPatterns h hget he
      | _ => exact nomatch hnames

theorem stop_refuseAdditional {k : String} {extra : List String} :
    (refuseAdditional k m extra).stop = .none := by
  unfold refuseAdditional
  dsimp only
  split <;> rfl

/-! ## Evaluations -/

/-- Evaluations of a depth stop for a cause only; the levels that have been taken since the schema
that is to blame are counted in. -/
structure Causes (x : Index) (d : Dialect) (formats : List Format) (n : Nat) : Prop where
  ofRun : ∀ {sc : Scope} {schema v : Value} {s : Stop},
    (run n ⟨x, formats⟩ ⟨d, sc⟩ d schema v).stop = some s → Cause x d n ⟨sc, schema⟩ s
  ofKeyword : ∀ {sc : Scope} {m : Members} {rule : Keyword} {k : String} {value v : Value}
    {s : Stop}, (k, value) ∈ applicable d m → d.keyword? k = some rule →
    (keyword n ⟨x, formats⟩ ⟨d, sc⟩ rule k value m v).stop = some s →
    Cause x d (n + 1) ⟨sc, .object m⟩ s
  ofDescend : ∀ {sc : Scope} {inner : Option Scope} {step : Option Step} {schema v : Value}
    {s : Stop}, (descend n ⟨x, formats⟩ ⟨d, sc⟩ inner step schema v).stop = some s →
    Cause x d (n - 1) ⟨inner.getD (sc.enter ⟨schema, d⟩), schema⟩ s
  ofIsValid : ∀ {sc : Scope} {schema v : Value} {s : Stop},
    isValid n ⟨x, formats⟩ ⟨d, sc⟩ schema v = .error s → Cause x d (n - 1) ⟨sc, schema⟩ s
  ofApplied : ∀ {sc : Scope} {m : Members} {v : Value} {s : Stop}, IsModern d →
    applied n ⟨x, formats⟩ ⟨d, sc⟩ m v = .error s → Cause x d (n + 3) ⟨sc, .object m⟩ s
  ofItems : ∀ {sc : Scope} {schema : Value} {xs : List Value} {s : Stop}, IsModern d →
    evaluatedItems n ⟨x, formats⟩ ⟨d, sc⟩ schema xs = .error s → Cause x d (n + 2) ⟨sc, schema⟩ s
  ofKeys : ∀ {sc : Scope} {schema : Value} {doc : Members} {s : Stop}, IsModern d →
    evaluatedKeys n ⟨x, formats⟩ ⟨d, sc⟩ schema doc = .error s → Cause x d (n + 2) ⟨sc, schema⟩ s

section Evaluation

variable {x : Index} {d : Dialect} {formats : List Format} {n : Nat} {sc : Scope} {s : Stop}

theorem causes_zero : Causes x d formats 0 := by
  have hdeep {levels : Nat} {a : Site} {s : Stop} (h : some Stop.tooDeep = some s)
      (hle : levels ≤ 4) : Cause x d levels a s := Option.some.inj h ▸ .tooDeep x d a hle
  have herror {levels : Nat} {a : Site} {s : Stop} {α : Type}
      (h : (Except.error Stop.tooDeep : Except Stop α) = .error s)
      (hle : levels ≤ 4) : Cause x d levels a s := Except.error.inj h ▸ .tooDeep x d a hle
  exact ⟨(hdeep · (by omega)), fun _ _ => (hdeep · (by omega)), (hdeep · (by omega)),
    (herror · (by omega)), fun _ => (herror · (by omega)), fun _ => (herror · (by omega)),
    fun _ => (herror · (by omega))⟩

/-- A schema in another dialect is at fault, whatever comes of it. -/
theorem cause_of_run (h : Causes x d formats n) {schema v : Value} {around : Dialect}
    (haround : d.ofSchema schema = d → around = d)
    (hstop : (run n ⟨x, formats⟩ ⟨d.ofSchema schema, sc⟩ around schema v).stop = some s) :
    Cause x d n ⟨sc, schema⟩ s := by
  by_cases hd : d.ofSchema schema = d
  · rw [hd, haround hd] at hstop
    exact h.ofRun hstop
  · cases schema with
    | object m => exact UncheckedFault.cause (.dialect hd)
    | _ => exact absurd rfl hd

theorem causes_run (h : Causes x d formats n) {schema v : Value}
    (hstop : (run (n + 1) ⟨x, formats⟩ ⟨d, sc⟩ d schema v).stop = some s) :
    Cause x d (n + 1) ⟨sc, schema⟩ s := by
  unfold run at hstop
  split at hstop
  · obtain ⟨⟨k, value⟩, hmem, hstop⟩ := stop_each hstop
    dsimp only at hstop
    split at hstop
    · rename_i rule hrule
      exact h.ofKeyword hmem hrule hstop
    · exact nomatch hstop
  · exact nomatch hstop

theorem causes_descend (h : Causes x d formats n) {inner : Option Scope} {step : Option Step}
    {schema v : Value}
    (hstop : (descend (n + 1) ⟨x, formats⟩ ⟨d, sc⟩ inner step schema v).stop = some s) :
    Cause x d n ⟨inner.getD (sc.enter ⟨schema, d⟩), schema⟩ s := by
  unfold descend at hstop
  split at hstop
  · exact nomatch hstop
  · exact nomatch hstop
  · cases step with
    | none => exact cause_of_run h (fun _ => rfl) hstop
    | some step => exact cause_of_run h (fun _ => rfl) hstop

theorem causes_isValid (h : Causes x d formats n) {schema v : Value}
    (hstop : isValid (n + 1) ⟨x, formats⟩ ⟨d, sc⟩ schema v = .error s) :
    Cause x d n ⟨sc, schema⟩ s := by
  unfold isValid at hstop
  split at hstop
  · exact nomatch hstop
  · exact cause_of_run h id (error_of_isClean hstop)

end Evaluation

section Step

variable {x : Index} {d : Dialect} {formats : List Format} {n : Nat} (h : Causes x d formats n)
  {sc : Scope} {m : Members} {rule : Keyword} {k : String} {value sub v : Value} {s : Stop}
include h

theorem Causes.descended (hsaid : Says d m rule value) (hsub : sub ∈ subschemasAt d m rule value)
    {step : Option Step}
    (hstop : (descend n ⟨x, formats⟩ ⟨d, sc⟩ .none step sub v).stop = some s) :
    Cause x d (n + 2) ⟨sc, .object m⟩ s :=
  (Cause.of_applies (.entered hsaid hsub) (h.ofDescend hstop)).mono (by omega)

theorem Causes.tested (hsaid : Says d m rule value) (hsub : sub ∈ subschemasAt d m rule value)
    (hstop : isValid n ⟨x, formats⟩ ⟨d, sc⟩ sub v = .error s) :
    Cause x d (n + 4) ⟨sc, .object m⟩ s :=
  (Cause.of_applies (.kept hsaid hsub) (h.ofIsValid hstop)).mono (by omega)

theorem Causes.passed (hsaid : Says d m rule value) (hsub : sub ∈ subschemasAt d m rule value)
    (hstop : (do return (← (descend n ⟨x, formats⟩ ⟨d, sc⟩ .none .none sub v).all).isEmpty) =
      (.error s : Except Stop Bool)) : Cause x d (n + 2) ⟨sc, .object m⟩ s := by
  have herror := error_of_bind_pure hstop
  exact h.descended hsaid hsub (Findings.all_eq_error_iff.mp herror)

theorem Causes.items (hsaid : Says d m rule value) (hsub : sub ∈ subschemasAt d m rule value)
    {parts : List (Value × Nat)}
    (hstop : (each parts fun (item, i) =>
      descend n ⟨x, formats⟩ ⟨d, sc⟩ .none (some (.index i)) sub item).stop = some s) :
    Cause x d (n + 2) ⟨sc, .object m⟩ s := by
  obtain ⟨_, -, hstop⟩ := stop_each hstop
  exact h.descended hsaid hsub hstop

theorem Causes.itemsEach (hsaid : Says d m rule value)
    (hsub : ∀ sub ∈ listOf value, sub ∈ subschemasAt d m rule value) {xs : List Value}
    (hstop : (each (xs.zip (listOf value)).zipIdx fun ((item, sub), i) =>
      descend n ⟨x, formats⟩ ⟨d, sc⟩ .none (some (.index i)) sub item).stop = some s) :
    Cause x d (n + 2) ⟨sc, .object m⟩ s := by
  obtain ⟨⟨⟨item, sub⟩, i⟩, hmem, hstop⟩ := stop_each hstop
  have hpair : (item, sub) ∈ xs.zip (listOf value) := (List.mem_zipIdx' hmem).2 ▸ List.getElem_mem _
  exact h.descended hsaid (hsub sub (List.of_mem_zip hpair).2) hstop

theorem Causes.reference {r : String}
    (hsaid : Says d m .ref (.text r) ∨ Says d m .dynamicRef (.text r))
    (hstop : (match x.lookup sc r with
      | .ok (target, scope) => descend n ⟨x, formats⟩ ⟨d, sc⟩ (some scope) .none target v
      | .error e => stopped (.reference e)).stop = some s) :
    Cause x d (n + 2) ⟨sc, .object m⟩ s := by
  split at hstop
  · rename_i target scope hlookup
    exact (Cause.of_applies (.referred hsaid hlookup) (h.ofDescend hstop)).mono (by omega)
  · rename_i e hlookup
    exact UncheckedFault.cause (Option.some.inj hstop ▸ .reference hsaid hlookup)

theorem Causes.recursion (hsaid : Says d m .recursiveRef value)
    (hstop : (match x.lookupRecursive sc with
      | .ok (target, scope) => descend n ⟨x, formats⟩ ⟨d, sc⟩ (some scope) .none target v
      | .error e => stopped (.bareReference e)).stop = some s) :
    Cause x d (n + 2) ⟨sc, .object m⟩ s := by
  split at hstop
  · rename_i target scope hlookup
    exact (Cause.of_applies (.recursed hsaid hlookup) (h.ofDescend hstop)).mono (by omega)
  · rename_i e hlookup
    exact UncheckedFault.cause (Option.some.inj hstop ▸ .recursion hsaid hlookup)

theorem Causes.oneOf (hsaid : Says d m .oneOf value)
    (hstop : (keyword (n + 1) ⟨x, formats⟩ ⟨d, sc⟩ .oneOf k value m v).stop = some s) :
    Cause x d (n + 2) ⟨sc, .object m⟩ s := by
  rw [keyword] at hstop
  rcases stop_after hstop with herror | ⟨found, hfound, hstop⟩
  · obtain ⟨sub, hsub, hstop⟩ := error_of_firstPassing herror
    exact h.passed hsaid hsub hstop
  · cases found with
    | none => exact nomatch hstop
    | some found =>
      have herror := error_of_after_expect hstop
      obtain ⟨sub, hsub, hstop⟩ := error_of_filterM herror
      have hmem : sub ∈ listOf value := mem_of_firstPassing hfound hsub
      exact (h.tested hsaid hmem hstop).mono (by omega)

theorem Causes.condition (hsaid : Says d m .condition value)
    (hstop : (keyword (n + 1) ⟨x, formats⟩ ⟨d, sc⟩ .condition k value m v).stop = some s) :
    Cause x d (n + 2) ⟨sc, .object m⟩ s := by
  rw [keyword] at hstop
  rcases stop_after hstop with herror | ⟨ok, -, hstop⟩
  · exact (h.tested hsaid List.mem_cons_self herror).mono (by omega)
  · split at hstop
    · rename_i sub hsub
      refine h.descended hsaid (List.mem_cons_of_mem _ ?_) hstop
      refine List.mem_filterMap.mpr ⟨if ok then "then" else "else", ?_, hsub⟩
      cases ok <;> simp
    · cases hstop

theorem Causes.type (hsaid : Says d m .type value)
    (hstop : (keyword (n + 1) ⟨x, formats⟩ ⟨d, sc⟩ .type k value m v).stop = some s) :
    Cause x d (n + 2) ⟨sc, .object m⟩ s := by
  rw [keyword] at hstop
  split at hstop
  · rename_i hd
    have herror := error_of_after_expect hstop
    obtain ⟨type, htype, herror⟩ := error_of_anyM herror
    split at herror
    · cases herror
    · refine h.passed hsaid ?_ herror
      rw [subschemasAt, if_pos hd]
      exact List.mem_filter.mpr ⟨htype, rfl⟩
    · rename_i hobject
      obtain ⟨hunknown, rfl⟩ := error_of_isOfType herror fun htype => by
        cases type with
        | object t => exact absurd rfl (hobject t)
        | _ => cases htype
      exact CheckedFault.cause (.type hsaid htype hunknown) sc
  · rename_i hd
    rcases fault_of_assertion hsaid (fun _ => hd) hstop with hfault | hfault
    · exact hfault.cause sc
    · exact hfault.cause

theorem Causes.patternProperties (hsaid : Says d m .patternProperties value) {doc : Members}
    (hstop : (keyword (n + 1) ⟨x, formats⟩ ⟨d, sc⟩ .patternProperties k value m
      (.object doc)).stop = some s) : Cause x d (n + 2) ⟨sc, .object m⟩ s := by
  rw [keyword] at hstop
  obtain ⟨⟨p, sub⟩, hmember, hname⟩ := stop_each hstop
  obtain ⟨names, rfl, hsub⟩ := exists_members hmember
  obtain ⟨⟨key, part⟩, -, hkey⟩ := stop_each hname
  rcases stop_after hkey with herror | ⟨found, -, hstop⟩
  · obtain ⟨e, he, rfl⟩ := error_of_patternFound herror
    have hp : p ∈ Members.keys names := List.mem_map_of_mem hsub
    cases hd : d.looksAtPatternNames with
    | true => exact CheckedFault.cause (.patternName hd hsaid hp he) sc
    | false => exact UncheckedFault.cause (.patternName hd hsaid hp he)
  · split at hstop
    · exact h.descended hsaid (List.mem_map_of_mem hsub) hstop
    · exact nomatch hstop

theorem Causes.additionalProperties (hsaid : Says d m .additionalProperties value) {doc : Members}
    (hstop : (keyword (n + 1) ⟨x, formats⟩ ⟨d, sc⟩ .additionalProperties k value m
      (.object doc)).stop = some s) : Cause x d (n + 2) ⟨sc, .object m⟩ s := by
  rw [keyword] at hstop
  rcases stop_after hstop with herror | ⟨_, -, hstop⟩
  · exact (fault_of_additionalKeys hsaid herror).cause
  · split at hstop
    · obtain ⟨key, -, hstop⟩ := stop_each hstop
      exact h.descended hsaid List.mem_cons_self hstop
    · split at hstop
      · cases hstop
      · cases hstop.symm.trans stop_refuseAdditional

theorem Causes.dependencies (hsaid : Says d m .dependencies value) {doc : Members}
    (hstop : (keyword (n + 1) ⟨x, formats⟩ ⟨d, sc⟩ .dependencies k value m
      (.object doc)).stop = some s) : Cause x d (n + 2) ⟨sc, .object m⟩ s := by
  rw [keyword] at hstop
  obtain ⟨⟨property, need⟩, hneed, hstop⟩ := stop_each hstop
  dsimp only at hstop
  split at hstop
  · cases hstop
  · split at hstop
    · cases hstop.symm.trans stop_assertNeeded
    · split at hstop
      · cases hstop.symm.trans stop_assertNeeded
      · cases hstop
    · rename_i harray htext
      refine h.descended hsaid (List.mem_filter.mpr ⟨List.mem_map_of_mem hneed, ?_⟩) hstop
      cases need with
      | array names => exact absurd rfl (harray names)
      | text name => exact absurd rfl (htext name)
      | _ => rfl

theorem Causes.itemsKeyword (hsaid : Says d m .items value) {xs : List Value}
    (hstop : (keyword (n + 1) ⟨x, formats⟩ ⟨d, sc⟩ .items k value m (.array xs)).stop = some s) :
    Cause x d (n + 2) ⟨sc, .object m⟩ s := by
  unfold keyword at hstop
  dsimp only at hstop
  split at hstop
  · rename_i hd
    split at hstop
    · cases hstop.symm.trans stop_expect
    · refine h.items hsaid ?_ hstop
      rw [subschemasAt, if_pos hd]
      exact List.mem_cons_self
  · rename_i hd
    have hmem : ∀ sub ∈ listOf value, sub ∈ subschemasAt d m .items value := fun sub hsub => by
      rwa [subschemasAt, if_neg hd]
    split at hstop
    · exact h.itemsEach hsaid hmem hstop
    · rename_i harray
      refine h.items hsaid (hmem value ?_) hstop
      cases value with
      | array subschemas => exact absurd rfl (harray subschemas)
      | _ => exact List.mem_cons_self

theorem Causes.additionalItems (hsaid : Says d m .additionalItems value) {xs : List Value}
    (hstop : (keyword (n + 1) ⟨x, formats⟩ ⟨d, sc⟩ .additionalItems k value m
      (.array xs)).stop = some s) : Cause x d (n + 2) ⟨sc, .object m⟩ s := by
  rw [keyword] at hstop
  split at hstop
  · cases hstop
  · rcases stop_after hstop with herror | ⟨count, -, hstop⟩
    · exact UncheckedFault.cause (.items (.inl ⟨value, hsaid⟩) herror)
    · split at hstop
      · exact h.items hsaid List.mem_cons_self hstop
      · cases hstop.symm.trans stop_expect

theorem Causes.contains (hsaid : Says d m .contains value) {xs : List Value}
    (hstop : (keyword (n + 1) ⟨x, formats⟩ ⟨d, sc⟩ .contains k value m
      (.array xs)).stop = some s) : Cause x d (n + 2) ⟨sc, .object m⟩ s := by
  have htested {part : Value} (hpart : isValid n ⟨x, formats⟩ ⟨d, sc⟩ value part = .error s) :
      Cause x d (n + 2) ⟨sc, .object m⟩ s :=
    (h.tested hsaid List.mem_cons_self hpart).mono (by omega)
  rw [keyword] at hstop
  split at hstop
  · have herror := error_of_after_expect hstop
    obtain ⟨_, -, herror⟩ := error_of_anyM herror
    exact htested herror
  · rcases stop_after hstop with herror | ⟨⟨count, exceeded⟩, -, hnone⟩
    · obtain ⟨_, -, herror⟩ := error_of_countPassing herror
      exact htested herror
    · dsimp only at hnone
      repeat' split at hnone
      all_goals exact nomatch hnone

theorem Causes.unevaluatedProperties (hd : IsModern d)
    (hsaid : Says d m .unevaluatedProperties value) {doc : Members}
    (hstop : (keyword (n + 1) ⟨x, formats⟩ ⟨d, sc⟩ .unevaluatedProperties k value m
      (.object doc)).stop = some s) : Cause x d (n + 2) ⟨sc, .object m⟩ s := by
  rw [keyword] at hstop
  rcases stop_after hstop with herror | ⟨done, -, hstop⟩
  · exact h.ofKeys hd herror
  · rcases stop_after hstop with herror | ⟨bad, -, hnone⟩
    · obtain ⟨⟨key, part⟩, -, herror⟩ := error_of_gather herror
      have herror := error_of_bind_pure herror
      exact h.descended hsaid List.mem_cons_self (Findings.all_eq_error_iff.mp herror)
    · split at hnone
      · cases hnone
      · split at hnone <;> cases hnone

theorem Causes.unevaluatedItems (hd : IsModern d) {xs : List Value}
    (hstop : (keyword (n + 1) ⟨x, formats⟩ ⟨d, sc⟩ .unevaluatedItems k value m
      (.array xs)).stop = some s) : Cause x d (n + 2) ⟨sc, .object m⟩ s := by
  rw [keyword] at hstop
  rcases stop_after hstop with herror | ⟨done, -, hnone⟩
  · exact h.ofItems hd herror
  · exact nomatch hnone.symm.trans stop_expect

end Step

section Induction

variable {x : Index} {d : Dialect} {formats : List Format} {n : Nat} {sc : Scope} {m : Members}
  {v : Value} {s : Stop}

theorem causes_keyword (h : Causes x d formats n) {rule : Keyword} {k : String} {value : Value}
    (hmem : (k, value) ∈ applicable d m) (hrule : d.keyword? k = some rule)
    (hstop : (keyword (n + 1) ⟨x, formats⟩ ⟨d, sc⟩ rule k value m v).stop = some s) :
    Cause x d (n + 2) ⟨sc, .object m⟩ s := by
  have hsaid : Says d m rule value := ⟨k, hmem, hrule⟩
  -- what is no object or no array is left to the assertions, which have nothing to say of it
  have hassertion (hne : rule ≠ .type)
      (hstop : (assertion formats d m rule k value v).stop = some s) :
      Cause x d (n + 2) ⟨sc, .object m⟩ s :=
    (fault_of_assertion hsaid (absurd · hne) hstop).elim (·.cause sc) (·.cause)
  cases rule with
  | ref =>
    unfold keyword at hstop
    dsimp only at hstop
    split at hstop
    · exact h.reference (.inl hsaid) hstop
    · cases hstop
  | dynamicRef =>
    unfold keyword at hstop
    dsimp only at hstop
    split at hstop
    · exact h.reference (.inr hsaid) hstop
    · cases hstop
  | recursiveRef =>
    rw [keyword] at hstop
    exact h.recursion hsaid hstop
  | allOf =>
    rw [keyword] at hstop
    obtain ⟨sub, hsub, hstop⟩ := stop_each hstop
    exact h.descended hsaid hsub hstop
  | anyOf =>
    rw [keyword] at hstop
    have herror := error_of_after_expect hstop
    obtain ⟨sub, hsub, herror⟩ := error_of_anyM herror
    exact h.passed hsaid hsub herror
  | oneOf => exact h.oneOf hsaid hstop
  | not =>
    rw [keyword] at hstop
    have herror := error_of_after_expect hstop
    exact (h.tested hsaid List.mem_cons_self herror).mono (by omega)
  | condition => exact h.condition hsaid hstop
  | base =>
    unfold keyword at hstop
    dsimp only at hstop
    split at hstop
    · exact h.descended hsaid List.mem_cons_self hstop
    · obtain ⟨sub, hsub, hstop⟩ := stop_each hstop
      exact h.descended hsaid hsub hstop
  | disallow =>
    rw [keyword] at hstop
    obtain ⟨type, htype, hstop⟩ := stop_each hstop
    have herror := error_of_after_expect hstop
    exact (h.tested hsaid (List.mem_map_of_mem htype) herror).mono (by omega)
  | type => exact h.type hsaid hstop
  | properties =>
    cases v with
    | object doc =>
      rw [keyword] at hstop
      obtain ⟨⟨property, sub⟩, hsub, hstop⟩ := stop_each hstop
      dsimp only at hstop
      split at hstop
      · exact h.descended hsaid (List.mem_map_of_mem hsub) hstop
      · split at hstop <;> cases hstop
    | _ => exact hassertion (by decide) hstop
  | patternProperties =>
    cases v with
    | object doc => exact h.patternProperties hsaid hstop
    | _ => exact hassertion (by decide) hstop
  | propertyNames =>
    cases v with
    | object doc =>
      rw [keyword] at hstop
      obtain ⟨_, -, hstop⟩ := stop_each hstop
      exact h.descended hsaid List.mem_cons_self hstop
    | _ => exact hassertion (by decide) hstop
  | additionalProperties =>
    cases v with
    | object doc => exact h.additionalProperties hsaid hstop
    | _ => exact hassertion (by decide) hstop
  | dependencies =>
    cases v with
    | object doc => exact h.dependencies hsaid hstop
    | _ => exact hassertion (by decide) hstop
  | dependentSchemas =>
    cases v with
    | object doc =>
      rw [keyword] at hstop
      obtain ⟨⟨property, sub⟩, hsub, hstop⟩ := stop_each hstop
      dsimp only at hstop
      split at hstop
      · exact h.descended hsaid (List.mem_map_of_mem hsub) hstop
      · cases hstop
    | _ => exact hassertion (by decide) hstop
  | unevaluatedProperties =>
    cases v with
    | object doc =>
      exact h.unevaluatedProperties (isModern_of_keyword? hrule (.inr rfl)) hsaid hstop
    | _ => exact hassertion (by decide) hstop
  | prefixItems =>
    cases v with
    | array xs =>
      rw [keyword] at hstop
      exact h.itemsEach hsaid (fun _ => id) hstop
    | _ => exact hassertion (by decide) hstop
  | items =>
    cases v with
    | array xs => exact h.itemsKeyword hsaid hstop
    | _ => exact hassertion (by decide) hstop
  | additionalItems =>
    cases v with
    | array xs => exact h.additionalItems hsaid hstop
    | _ => exact hassertion (by decide) hstop
  | contains =>
    cases v with
    | array xs => exact h.contains hsaid hstop
    | _ => exact hassertion (by decide) hstop
  | unevaluatedItems =>
    cases v with
    | array xs => exact h.unevaluatedItems (isModern_of_keyword? hrule (.inl rfl)) hstop
    | _ => exact hassertion (by decide) hstop
  | _ => exact hassertion (by decide) hstop

theorem says_reference (hd : IsModern d) {key r : String}
    (hkey : key ∈ if d = .draft2019 then ["$ref"] else ["$ref", "$dynamicRef"])
    (hget : m.get? key = some (.text r)) :
    Says d m .ref (.text r) ∨ Says d m .dynamicRef (.text r) := by
  rcases hd with rfl | rfl
  · obtain rfl := List.mem_singleton.mp hkey
    exact .inl (says_of_get? (.inl rfl) hget rfl)
  · rcases List.mem_pair.mp hkey with rfl | rfl
    · exact .inl (says_of_get? (.inr rfl) hget rfl)
    · exact .inr (says_of_get? (.inr rfl) hget rfl)

theorem says_recursiveRef (h : (decide (d = .draft2019) && m.has "$recursiveRef") = true) :
    ∃ value, Says d m .recursiveRef value := by
  obtain ⟨hd, hhas⟩ := Bool.and_eq_true_iff.mp h
  obtain rfl := of_decide_eq_true hd
  obtain ⟨value, hget⟩ := Option.isSome_iff_exists.mp hhas
  exact ⟨value, says_of_get? (.inl rfl) hget rfl⟩

theorem says_list (hd : IsModern d) {key : String} {sub : Value}
    (hkey : key ∈ ["allOf", "oneOf", "anyOf"]) (hsub : sub ∈ ((m.get? key).map listOf).getD []) :
    ∃ rule value, Says d m rule value ∧ sub ∈ subschemasAt d m rule value := by
  cases hget : m.get? key with
  | none =>
    rw [hget] at hsub
    exact nomatch hsub
  | some value =>
    rw [hget] at hsub
    simp only [List.mem_cons, List.not_mem_nil, or_false] at hkey
    rcases hkey with rfl | rfl | rfl
    · exact ⟨.allOf, value, hd.says_of_get? hget rfl rfl, hsub⟩
    · exact ⟨.oneOf, value, hd.says_of_get? hget rfl rfl, hsub⟩
    · exact ⟨.anyOf, value, hd.says_of_get? hget rfl rfl, hsub⟩

theorem says_if (hd : IsModern d) {test : Value} (hget : m.get? "if" = some test) :
    Says d m .condition test :=
  hd.says_of_get? hget rfl rfl

theorem lookupBare_eq_ok_iff {r : String} {target : Value × Scope} :
    lookupBare ⟨x, formats⟩ sc r = .ok target ↔ x.lookup sc r = .ok target := by
  unfold lookupBare
  cases x.lookup sc r <;> simp

theorem lookupBare_eq_error_iff {r : String} :
    lookupBare ⟨x, formats⟩ sc r = .error s ↔
      ∃ e, x.lookup sc r = .error e ∧ s = .bareReference e := by
  unfold lookupBare
  cases x.lookup sc r <;> simp [eq_comm]

theorem causes_applied (h : Causes x d formats n) (hd : IsModern d)
    (hstop : applied (n + 1) ⟨x, formats⟩ ⟨d, sc⟩ m v = .error s) :
    Cause x d (n + 4) ⟨sc, .object m⟩ s := by
  unfold applied at hstop
  dsimp only at hstop
  -- the steps in their order: references, the recursive one, the condition, and the lists
  rcases bind_eq_error_iff.mp hstop with hreference | ⟨_, -, hstop⟩
  · obtain ⟨key, hkey, hstop⟩ := error_of_gather hreference
    split at hstop
    · rename_i r hget
      have hlookup := error_of_bind_pure hstop
      obtain ⟨e, he, rfl⟩ := lookupBare_eq_error_iff.mp hlookup
      exact UncheckedFault.cause (.bareReference (says_reference hd hkey hget) he)
    · exact absurd hstop pure_ne_error
  rcases bind_eq_error_iff.mp hstop with hrecursion | ⟨_, -, hstop⟩
  · split at hrecursion
    · rename_i hkey
      split at hrecursion
      · exact absurd hrecursion pure_ne_error
      · rename_i e he
        obtain ⟨value, hsaid⟩ := says_recursiveRef hkey
        exact UncheckedFault.cause (Except.error.inj hrecursion ▸ .recursion hsaid he)
    · exact absurd hrecursion pure_ne_error
  rcases bind_eq_error_iff.mp hstop with hcondition | ⟨_, -, hstop⟩
  · split at hcondition
    · rename_i test hget
      rcases bind_eq_error_iff.mp hcondition with htest | ⟨ok, -, hpure⟩
      · exact h.tested (says_if hd hget) List.mem_cons_self htest
      · split at hpure <;> exact absurd hpure pure_ne_error
    · exact absurd hcondition pure_ne_error
  have hlist := error_of_bind_pure hstop
  obtain ⟨key, hkey, hstop⟩ := error_of_gather hlist
  obtain ⟨sub, hsub, hstop⟩ := error_of_gather hstop
  obtain ⟨rule, value, hsaid, hmem⟩ := says_list hd hkey hsub
  rcases bind_eq_error_iff.mp hstop with hclean | ⟨ok, -, hpure⟩
  · have hbelow := h.ofDescend (error_of_isClean hclean)
    exact (Cause.of_applies (.entered hsaid hmem) hbelow).mono (by omega)
  · split at hpure <;> exact absurd hpure pure_ne_error

theorem says_dependentSchemas (hd : IsModern d) {needs : Value}
    (hget : m.get? "dependentSchemas" = some needs) : Says d m .dependentSchemas needs :=
  hd.says_of_get? hget rfl rfl

theorem mem_condition {f : Frame} {test : Value} {ok : Bool} {found : List (Frame × Value)}
    (hpure : (if ok = true then pure ([(f, test)] ++ ((m.get? "then").map ((f, ·))).toList)
      else pure ((m.get? "else").map ((f, ·))).toList : Except Stop (List (Frame × Value))) =
        .ok found) {e : Frame × Value} (he : e ∈ found) :
    ∃ sub ∈ subschemasAt d m .condition test, e = (f, sub) := by
  have hbranch {key : String} (hkey : key ∈ ["then", "else"])
      (hmem : e ∈ ((m.get? key).map ((f, ·))).toList) :
      ∃ sub ∈ subschemasAt d m .condition test, e = (f, sub) := by
    obtain ⟨sub, hget, rfl⟩ := Option.map_eq_some_iff.mp (Option.mem_toList.mp hmem)
    exact ⟨sub, List.mem_cons_of_mem _ (List.mem_filterMap.mpr ⟨key, hkey, hget⟩), rfl⟩
  split at hpure
  · obtain rfl := pure_eq_ok_iff.mp hpure
    rcases List.mem_append.mp he with he | he
    · obtain rfl := List.mem_singleton.mp he
      exact ⟨test, List.mem_cons_self, rfl⟩
    · exact hbranch (by simp) he
  · obtain rfl := pure_eq_ok_iff.mp hpure
    exact hbranch (by simp) he

theorem says_test (hd : IsModern d) {key : String} {sub : Value}
    (hkey : key ∈ ["contains", "unevaluatedItems"]) (hget : m.get? key = some sub) :
    ∃ rule, Says d m rule sub ∧ sub ∈ subschemasAt d m rule sub := by
  rcases List.mem_pair.mp hkey with rfl | rfl
  · exact ⟨.contains, hd.says_of_get? hget rfl rfl, List.mem_cons_self⟩
  · exact ⟨.unevaluatedItems, hd.says_of_get? hget rfl rfl, List.mem_cons_self⟩

theorem says_others (hd : IsModern d) {key : String} {sub : Value}
    (hkey : key ∈ ["properties", "additionalProperties", "unevaluatedProperties"])
    (hne : key ≠ "properties") (hget : m.get? key = some sub) :
    ∃ rule, Says d m rule sub ∧ sub ∈ subschemasAt d m rule sub := by
  rcases List.mem_pair.mp ((List.mem_cons.mp hkey).resolve_left hne) with rfl | rfl
  · exact ⟨.additionalProperties, hd.says_of_get? hget rfl rfl, List.mem_cons_self⟩
  · exact ⟨.unevaluatedProperties, hd.says_of_get? hget rfl rfl, List.mem_cons_self⟩

/-- A schema is applied, and where it is evaluated is in its dialect. -/
def IsApplied (x : Index) (d : Dialect) (a : Site) (found : Frame × Value) : Prop :=
  Applies x d a ⟨found.1.scope, found.2⟩ ∧
    (d.ofSchema found.2 = d → found.1.dialect = d)

theorem isApplied_of_applied (hd : IsModern d) {found : List (Frame × Value)}
    (hfound : applied n ⟨x, formats⟩ ⟨d, sc⟩ m v = .ok found) :
    ∀ e ∈ found, IsApplied x d ⟨sc, .object m⟩ e := by
  cases n
  · exact nomatch hfound
  unfold applied at hfound
  dsimp only at hfound
  obtain ⟨byReference, hreference, hfound⟩ := bind_eq_ok_iff.mp hfound
  obtain ⟨byRecursion, hrecursion, hfound⟩ := bind_eq_ok_iff.mp hfound
  obtain ⟨byCondition, hcondition, hfound⟩ := bind_eq_ok_iff.mp hfound
  obtain ⟨byList, hlist, hpure⟩ := bind_eq_ok_iff.mp hfound
  obtain rfl := pure_eq_ok_iff.mp hpure
  intro e he
  simp only [List.mem_append] at he
  -- by reference, by recursion, by what depends on a key, by the condition, or in a list
  obtain (((he | he) | he) | he) | he := he
  · obtain ⟨key, hkey, led, hled, he⟩ := mem_of_gather hreference he
    split at hled
    · rename_i r hget
      obtain ⟨target, hlookup, hpure⟩ := bind_eq_ok_iff.mp hled
      obtain rfl := pure_eq_ok_iff.mp hpure
      obtain rfl := List.mem_singleton.mp he
      exact ⟨.referred (says_reference hd hkey hget) (lookupBare_eq_ok_iff.mp hlookup), id⟩
    · exact absurd (pure_eq_ok_iff.mp hled ▸ he) List.not_mem_nil
  · split at hrecursion
    · rename_i hkey
      obtain ⟨value, hsaid⟩ := says_recursiveRef hkey
      split at hrecursion
      · rename_i target hlookup
        obtain rfl := pure_eq_ok_iff.mp hrecursion
        obtain rfl := List.mem_singleton.mp he
        exact ⟨.recursed hsaid hlookup, id⟩
      · exact nomatch hrecursion
    · exact absurd (pure_eq_ok_iff.mp hrecursion ▸ he) List.not_mem_nil
  · split at he
    · obtain ⟨⟨key, sub⟩, hmember, hneeded⟩ := List.mem_filterMap.mp he
      obtain ⟨names, hget, hsub⟩ := exists_get?_members hmember
      split at hneeded
      · obtain rfl := Option.some.inj hneeded
        exact ⟨.kept (says_dependentSchemas hd hget) (List.mem_map_of_mem hsub), fun _ => rfl⟩
      · exact nomatch hneeded
    · exact absurd he List.not_mem_nil
  · split at hcondition
    · rename_i test hget
      obtain ⟨ok, -, hpure⟩ := bind_eq_ok_iff.mp hcondition
      obtain ⟨sub, hsub, rfl⟩ := mem_condition hpure he
      exact ⟨.kept (says_if hd hget) hsub, fun _ => rfl⟩
    · exact absurd (pure_eq_ok_iff.mp hcondition ▸ he) List.not_mem_nil
  · obtain ⟨key, hkey, ys, hys, he⟩ := mem_of_gather hlist he
    obtain ⟨sub, hsub, zs, hzs, he⟩ := mem_of_gather hys he
    obtain ⟨rule, value, hsaid, hmem⟩ := says_list hd hkey hsub
    obtain ⟨ok, -, hpure⟩ := bind_eq_ok_iff.mp hzs
    split at hpure
    · obtain rfl := pure_eq_ok_iff.mp hpure
      obtain rfl := List.mem_singleton.mp he
      exact ⟨.kept hsaid hmem, fun _ => rfl⟩
    · exact absurd (pure_eq_ok_iff.mp hpure ▸ he) List.not_mem_nil

/-- What stops in the schemas that a schema applies stops for a cause in the latter. -/
theorem cause_of_applied (hd : IsModern d) {found : List (Frame × Value)} {levels : Nat}
    (hfound : applied n ⟨x, formats⟩ ⟨d, sc⟩ m v = .ok found) {e : Frame × Value} (he : e ∈ found)
    (hbelow : ∀ sc', e.1 = ⟨d, sc'⟩ → Cause x d levels ⟨sc', e.2⟩ s) :
    Cause x d (levels + 5) ⟨sc, .object m⟩ s := by
  obtain ⟨⟨d', sc'⟩, sub⟩ := e
  obtain ⟨happlies, hdialect⟩ := isApplied_of_applied hd hfound _ he
  refine Cause.of_applies happlies ?_
  -- a schema in another dialect is at fault itself, so what is below it does not matter
  by_cases hsub : d.ofSchema sub = d
  · obtain rfl : d' = d := hdialect hsub
    exact hbelow sc' rfl
  · cases sub with
    | object t => exact UncheckedFault.cause (.dialect hsub)
    | _ => exact absurd rfl hsub

/-- What stops where something is collected from the schemas that a schema applies stops for a cause
in the latter, if it does so in each of them. -/
theorem Causes.ofOthers (h : Causes x d formats n) (hd : IsModern d) {α β : Type}
    {collect : Frame × Value → Except Stop (List α)} {finish : List α → β}
    (hbelow : ∀ sc' sub, collect (⟨d, sc'⟩, sub) = .error s → Cause x d (n + 2) ⟨sc', sub⟩ s)
    (hstop : (do
      let others ← applied n ⟨x, formats⟩ ⟨d, sc⟩ m v
      let found ← gather collect others
      pure (finish found)) = .error s) : Cause x d (n + 3) ⟨sc, .object m⟩ s := by
  rcases bind_eq_error_iff.mp hstop with happlied | ⟨others, hothers, hstop⟩
  · exact h.ofApplied hd happlied
  · have hgather := error_of_bind_pure hstop
    obtain ⟨⟨f', sub⟩, hmem, hinner⟩ := error_of_gather hgather
    have hsub (sc' : Scope) (hf : f' = ⟨d, sc'⟩) : Cause x d (n + 2) ⟨sc', sub⟩ s :=
      hbelow sc' sub (hf ▸ hinner)
    exact (cause_of_applied hd hothers hmem hsub).mono (by omega)

theorem causes_evaluatedItems (h : Causes x d formats n) (hd : IsModern d) {schema : Value}
    {xs : List Value} (hstop : evaluatedItems (n + 1) ⟨x, formats⟩ ⟨d, sc⟩ schema xs = .error s) :
    Cause x d (n + 3) ⟨sc, schema⟩ s := by
  cases schema with
  | object m =>
    unfold evaluatedItems at hstop
    dsimp only at hstop
    replace hstop := error_of_unless hstop
    -- first what the schema says of items itself, and then what the schemas do that it applies
    rcases bind_eq_error_iff.mp hstop with hlength | ⟨leading, -, hstop⟩
    · split at hlength
      · rename_i hlegacy
        exact UncheckedFault.cause (.items (.inr hlegacy) hlength)
      · exact absurd hlength pure_ne_error
    rcases bind_eq_error_iff.mp hstop with htest | ⟨byTest, -, hstop⟩
    · obtain ⟨key, hkey, htest⟩ := error_of_gather htest
      split at htest
      · rename_i sub hget
        obtain ⟨_, -, htest⟩ := error_of_indexesPassing htest
        obtain ⟨rule, hsaid, hmem⟩ := says_test hd hkey hget
        exact (h.tested hsaid hmem htest).mono (by omega)
      · exact nomatch htest
    exact h.ofOthers hd (fun _ _ hbelow => h.ofItems hd hbelow) hstop
  | _ => exact nomatch hstop

theorem causes_evaluatedKeys (h : Causes x d formats n) (hd : IsModern d) {schema : Value}
    {doc : Members} (hstop : evaluatedKeys (n + 1) ⟨x, formats⟩ ⟨d, sc⟩ schema doc = .error s) :
    Cause x d (n + 3) ⟨sc, schema⟩ s := by
  cases schema with
  | object m =>
    unfold evaluatedKeys at hstop
    dsimp only at hstop
    -- keywords that name keys, those that match them, and then the schemas that it applies
    rcases bind_eq_error_iff.mp hstop with hname | ⟨byName, -, hstop⟩
    · obtain ⟨key, hkey, hname⟩ := error_of_gather hname
      split at hname
      · exact nomatch hname
      · exact nomatch hname
      · rename_i sub _ hget
        split at hname
        · exact nomatch hname
        · rename_i hother
          have hne : key ≠ "properties" := fun hproperties => hother (by simp [hproperties])
          obtain ⟨rule, hsaid, hmem⟩ := says_others hd hkey hne hget
          obtain ⟨_, -, hpart⟩ := error_of_gather hname
          have hclean := error_of_bind_pure hpart
          have hbelow := h.ofDescend (error_of_isClean hclean)
          exact (Cause.of_applies (.entered hsaid hmem) hbelow).mono (by omega)
    rcases bind_eq_error_iff.mp hstop with hpattern | ⟨byPattern, -, hstop⟩
    · obtain ⟨key, -, hstop⟩ := error_of_gather hpattern
      have hany := error_of_bind_pure hstop
      obtain ⟨p, hp, herror⟩ := error_of_anyM hany
      obtain ⟨e, he, rfl⟩ := error_of_patternFound herror
      obtain ⟨entry, hmember, rfl⟩ := List.mem_map.mp hp
      obtain ⟨names, hget, hmem⟩ := exists_get?_members hmember
      have hlooks : d.looksAtPatternNames = true := by rcases hd with rfl | rfl <;> rfl
      exact CheckedFault.cause
        (.patternName hlooks (hd.says_of_get? hget rfl rfl) (List.mem_map_of_mem hmem) he) sc
    exact h.ofOthers hd (fun _ _ hbelow => h.ofKeys hd hbelow) hstop
  | _ => exact nomatch hstop

theorem causes (x : Index) (d : Dialect) (formats : List Format) (n : Nat) :
    Causes x d formats n := by
  induction n with
  | zero => exact causes_zero
  | succ n ih =>
    exact ⟨causes_run ih, causes_keyword ih, causes_descend ih, causes_isValid ih,
      causes_applied ih, fun hd => causes_evaluatedItems ih hd,
      fun hd => causes_evaluatedKeys ih hd⟩

end Induction

/-- Where the evaluation of a schema begins. -/
def Compiled.site (c : Compiled) : Site :=
  let r : Resource := ⟨.object c.document, c.dialect⟩
  ⟨⟨r.id?.getD "", []⟩, .object c.document⟩

/-- The schemas that are known when one is evaluated. -/
def Compiled.index (c : Compiled) : Index :=
  (Index.ofResource c.site.scope.base ⟨.object c.document, c.dialect⟩).append Index.standard

/-- A document that is evaluated stops the evaluation for a cause only. -/
theorem Compiled.cause_of_stop {c : Compiled} {v : Value} {s : Stop}
    (h : (c.findings v).stop = some s) : Cause c.index c.dialect depthLimit c.site s :=
  (causes _ _ _ _).ofRun h

end ContractDrift.Schema
