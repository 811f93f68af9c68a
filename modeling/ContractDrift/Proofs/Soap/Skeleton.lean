/-
Envelopes without values.

Where there are no values an envelope has its required fields only, each with a placeholder or with
the required fields inside it (`mem_allNames_ofFields`, `eq_placeholder_of_mem`).  So its names are
names that the operation declares, and if a document can hold these the envelope is valid against
its own operation, in strict mode too, with any blanks behind it (`validateIn_skeleton`).
-/
import ContractDrift.Proofs.Soap.BuildValidate

namespace ContractDrift.Wsdl

mutual

/-- The names of a field and of the fields inside it. -/
def Field.names : Field → List String
  | .mk name _ _ none => [name]
  | .mk name _ _ (some fs) => name :: Field.allNames fs

/-- The names of some fields and of the fields inside them. -/
def Field.allNames : List Field → List String
  | [] => []
  | f :: fs => f.names ++ Field.allNames fs

end

end ContractDrift.Wsdl

namespace ContractDrift.Soap

open ContractDrift.Wsdl (Direction Field Model Operation)
open ContractDrift.Xml (NameClass isXmlText)

/-! ## Content without values -/

theorem ofFields_cons_nil (f : Field) (fs : List Field) :
    Content.ofFields (f :: fs) [] =
      (if f.required then [Content.ofValue f .null] else []) ++ Content.ofFields fs [] := rfl

mutual

theorem mem_names_ofValue : (f : Field) → ∀ n ∈ (Content.ofValue f .null).names, n ∈ f.names
  | .mk name _ _ (some (f :: fs)), n, hn => by
    rw [Content.ofValue, Content.names] at hn
    rw [Field.names]
    rcases List.mem_cons.mp hn with rfl | hn
    · exact List.mem_cons_self
    · exact List.mem_cons_of_mem _ (mem_allNames_ofFields (f :: fs) n hn)
  | .mk name _ _ (some []), n, hn => by
    rw [Field.names]
    exact List.mem_cons.mpr (Or.inl (List.mem_singleton.mp hn))
  | .mk name _ _ none, n, hn => hn

/-- Without values there are only names that are declared. -/
theorem mem_allNames_ofFields : (fs : List Field) →
    ∀ n ∈ Content.allNames (Content.ofFields fs []), n ∈ Field.allNames fs
  | [], n, hn => hn
  | f :: fs, n, hn => by
    rw [ofFields_cons_nil] at hn
    rw [Field.allNames, List.mem_append]
    cases hrequired : f.required with
    | false =>
      rw [hrequired] at hn
      exact Or.inr (mem_allNames_ofFields fs n hn)
    | true =>
      rw [hrequired] at hn
      rcases List.mem_append.mp hn with hn | hn
      · exact Or.inl (mem_names_ofValue f n hn)
      · exact Or.inr (mem_allNames_ofFields fs n hn)

end

mutual

theorem eq_placeholder_of_mem_texts : (f : Field) →
    ∀ t ∈ (Content.ofValue f .null).texts, t = placeholder
  | .mk name _ _ (some (f :: fs)), t, ht => by
    rw [Content.ofValue, Content.texts] at ht
    exact eq_placeholder_of_mem (f :: fs) t ht
  | .mk name _ _ (some []), t, ht => List.mem_singleton.mp ht
  | .mk name _ _ none, t, ht => List.mem_singleton.mp ht

/-- Without values there are no texts but placeholders. -/
theorem eq_placeholder_of_mem : (fs : List Field) →
    ∀ t ∈ Content.allTexts (Content.ofFields fs []), t = placeholder
  | [], t, ht => absurd ht List.not_mem_nil
  | f :: fs, t, ht => by
    rw [ofFields_cons_nil] at ht
    cases hrequired : f.required with
    | false =>
      rw [hrequired] at ht
      exact eq_placeholder_of_mem fs t ht
    | true =>
      rw [hrequired] at ht
      rcases List.mem_append.mp ht with ht | ht
      · exact eq_placeholder_of_mem_texts f t ht
      · exact eq_placeholder_of_mem fs t ht

end

/-! ## The verdict -/

variable {o : Operation} {d : Direction}

/-- The names of an operation's message in one direction can be written in a document. -/
structure HasPlainNames (o : Operation) (d : Direction) : Prop where
  operation : NameClass.plain.isName o.name.toList = true
  fields : ∀ n ∈ Field.allNames (o.fieldsFor d), NameClass.plain.isName n.toList = true

/-- An envelope without values is valid against its own operation, also where blanks follow it. -/
theorem validateIn_skeleton (h : HasPlainNames o d) :
    ∃ text, buildIn o d [] defaultNamespace = .ok text ∧
      ∀ (m : Model) (strict : Bool) (blanks : String), m.operation? o.name = some o →
        (∀ c ∈ blanks.toList, Xml.isSpace c = true) →
          ∃ v, validateIn m strict (Text.utf8 (text ++ blanks)) o.name d = .ok v ∧
            v.valid = true := by
  have huri : Declarable defaultNamespace := ⟨by decide, by decide, by decide⟩
  have hnames : ∀ n ∈ Content.allNames (Content.ofFields (o.fieldsFor d) []),
      NameClass.plain.isName n.toList = true :=
    fun n hn => h.fields n (mem_allNames_ofFields _ n hn)
  have htexts : ∀ t ∈ Content.allTexts (Content.ofFields (o.fieldsFor d) []),
      isXmlText t.toList = true := by
    intro t ht
    rw [eq_placeholder_of_mem _ t ht]
    decide
  obtain ⟨text, hbuild, hparse⟩ :=
    parse_buildIn_append (isName_ofMessage h.operation hnames) htexts huri
  refine ⟨text, hbuild, fun m strict blanks ho hblanks => ⟨_, validateIn_of_hasWrapper ho
    (hasWrapper_message (hparse blanks hblanks)) strict, ?_⟩⟩
  have hpresent : ((Content.ofMessage o d []).toNode Content.readBack).childNames =
      (Content.ofFields (o.fieldsFor d) []).map Content.name :=
    Content.map_name_toNodes _ _
  rw [hpresent, judge_valid_iff, accepts_ofFields]
  -- no value is a list without members where there are no values
  exact fun f _ _ hempty => nomatch hempty

end ContractDrift.Soap
