/-
What is reported in a verdict, and what is not.

A check of an envelope reports in its verdict whatever is wrong with the envelope, except for
one thing: its declaration names a character set that cannot be read.  Then the check of a known
operation fails with the reader's refusal (`validateIn_eq_error_iff`).  `validate_reports` states
this together with the verdict on an envelope that is not well-formed.
-/
import ContractDrift.Proofs.Soap.Verdict
import ContractDrift.Proofs.Xml.CharacterSet

namespace ContractDrift.Soap

open ContractDrift.Wsdl (Direction Model)
open ContractDrift.Xml (Declares IsUnreadableSet Node)

variable {m : Model} {strict : Bool} {octets : Text.Octets} {name : String} {d : Direction}

/-- The body of an envelope is not looked for where the envelope declares a character set that
cannot be read, and everywhere else it is. -/
theorem findBody_eq_error_iff {e : Xml.ReadError} :
    findBody octets = .error e ↔ ∃ set, Declares octets set ∧ IsUnreadableSet set e := by
  rw [findBody_eq_error_iff_parse]
  constructor
  · rintro ⟨hparse, he⟩
    obtain ⟨set, e', hdeclares, hset, heq⟩ := (Xml.parse_eq_error_iff he).mp hparse
    cases heq
    exact ⟨set, hdeclares, hset⟩
  · rintro ⟨set, hdeclares, hset⟩
    have he := (Xml.isOfContent_unreadable e).trans hset.isMalformed_eq_false
    exact ⟨(Xml.parse_eq_error_iff he).mpr ⟨set, e, hdeclares, hset, rfl⟩, he⟩

theorem validateIn_eq_error_iff {e : Xml.ReadError} :
    validateIn m strict octets name d = .error e ↔
      ∃ o set, m.operation? name = some o ∧ Declares octets set ∧ IsUnreadableSet set e := by
  unfold validateIn
  cases ho : m.operation? name with
  | none => simp
  | some o =>
    rw [bind_eq_error_iff, findBody_eq_error_iff]
    constructor
    · rintro (⟨set, hdeclares, hset⟩ | ⟨x, -, hx⟩)
      · exact ⟨o, set, rfl, hdeclares, hset⟩
      -- once the body has been looked for, a verdict is given
      · cases x with
        | none => exact absurd hx pure_ne_error
        | some body => exact absurd hx pure_ne_error
    · rintro ⟨_, set, -, hdeclares, hset⟩
      exact .inl ⟨set, hdeclares, hset⟩

theorem validate_eq_error_iff {direction : Json.Value} (hd : Direction.ofValue direction = .ok d)
    {e : ValidationError} :
    validate m strict octets name direction = .error e ↔
      ∃ e', validateIn m strict octets name d = .error e' ∧ e = .envelope e' := by
  simp only [validate, hd]
  cases validateIn m strict octets name d <;> simp [eq_comm]

/-- An envelope whose declaration names a character set that nobody knows. -/
def unknownSetEnvelope : String := "<?xml version='1.0' encoding='foo'?><Envelope/>"

theorem declares_unknownSetEnvelope : Declares (Text.utf8 unknownSetEnvelope) "foo".toList := by
  rw [unknownSetEnvelope, Text.utf8_ofList]
  exact ⟨.utf8, 0, _, _, _, _, _, rfl, rfl, rfl, rfl⟩

theorem isUnreadableSet_foo : IsUnreadableSet "foo".toList (.unknownCharacterSet "foo") :=
  .unknown (by decide +kernel) (by decide +kernel)

end ContractDrift.Soap
