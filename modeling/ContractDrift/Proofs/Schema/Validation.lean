/-
Validation succeeds exactly if the evaluation comes to its end.

A verdict holds what the evaluation finds (`Compiled.findings`), in order; there is none exactly if
the identifier is not loaded or the evaluation stops (`validate_eq_ok_iff`,
`validate_eq_error_iff`).
-/
import ContractDrift.Proofs.Outcome
import ContractDrift.Schema.Registry

namespace ContractDrift.Schema

open ContractDrift.Json (Value)

theorem Findings.all_eq_ok_iff {f : Findings} {found : List Violation} :
    f.all = .ok found ↔ f.stop = .none ∧ f.violations = found := by
  unfold Findings.all
  split <;> simp_all

theorem Findings.all_eq_error_iff {f : Findings} {s : Stop} :
    f.all = .error s ↔ f.stop = some s := by
  unfold Findings.all
  split <;> simp_all

section

-- makes the equations of the evaluation here, once for all that take it apart
attribute [local simp] keyword

end

/-- What a document violates of a schema, up to where the evaluation stops. -/
def Compiled.findings (c : Compiled) (v : Value) : Findings :=
  evaluate (Format.named.map (·.2)) c.dialect (.object c.document) v

theorem Compiled.violations_eq (c : Compiled) (v : Value) : c.violations v = (c.findings v).all :=
  rfl

namespace Registry

variable {r : Registry} {id : String} {v : Value}

theorem validate_eq_ok_iff {verdict : Verdict} :
    r.validate id v = .ok verdict ↔ ∃ c, r.get id = .ok c ∧ (c.findings v).stop = .none ∧
      verdict = ⟨(c.findings v).violations.mergeSort Violation.le, id⟩ := by
  rw [validate, bind_eq_ok_iff]
  refine exists_congr fun c => and_congr_right fun _ => ?_
  rw [Compiled.violations_eq]
  constructor
  · intro h
    split at h
    · rename_i found hfound
      obtain ⟨hstop, rfl⟩ := Findings.all_eq_ok_iff.mp hfound
      exact ⟨hstop, pure_eq_ok_iff.mp h⟩
    · exact nomatch h
  · rintro ⟨hstop, rfl⟩
    rw [Findings.all_eq_ok_iff.mpr ⟨hstop, rfl⟩]
    rfl

theorem validate_eq_error_iff {e : QueryError} :
    r.validate id v = .error e ↔ r.get id = .error e ∨
      ∃ c s, r.get id = .ok c ∧ (c.findings v).stop = some s ∧ e = .stopped s := by
  rw [validate, bind_eq_error_iff]
  refine or_congr Iff.rfl (exists_congr fun c => ?_)
  rw [exists_and_left]
  refine and_congr_right fun _ => ?_
  rw [Compiled.violations_eq]
  constructor
  · intro h
    split at h
    · exact absurd h pure_ne_error
    · rename_i s hstop
      exact ⟨s, Findings.all_eq_error_iff.mp hstop, (Except.error.inj h).symm⟩
  · rintro ⟨s, hstop, rfl⟩
    rw [Findings.all_eq_error_iff.mpr hstop]
    rfl

end Registry

end ContractDrift.Schema
