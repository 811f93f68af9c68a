/-
What a service description declares, by name.

Elements and operations are collected one after the other, and the first of a name counts
(`addFirst`), so no name is declared twice and each operation stands under its own name
(`wellFormed_load`).
-/
import Mathlib.Data.List.Nodup
import ContractDrift.Wsdl.Model

namespace ContractDrift.Wsdl

open ContractDrift.Xml (Node)

/-- What is stored under distinct names is found by its name. -/
theorem lookup_eq_some {α : Type} {entries : List (String × α)}
    (hnodup : (entries.map (·.1)).Nodup) {e : String × α} (he : e ∈ entries) :
    entries.lookup e.1 = some e.2 := by
  induction entries with
  | nil => exact absurd he List.not_mem_nil
  | cons x entries ih =>
    rw [List.map_cons, List.nodup_cons] at hnodup
    rcases List.mem_cons.mp he with rfl | he
    · exact List.lookup_cons_self
    · have hne : (e.1 == x.1) = false :=
        beq_false_of_ne fun h => hnodup.1 (h ▸ List.mem_map_of_mem he)
      rw [List.lookup_cons, hne]
      exact ih hnodup.2 he

theorem nodup_addFirst {α : Type} {entries : List (String × α)}
    (h : (entries.map (·.1)).Nodup) (name : String) (value : α) :
    ((addFirst entries name value).map (·.1)).Nodup := by
  unfold addFirst
  split
  · exact h
  · rename_i hnone
    have hfresh : name ∉ entries.map (·.1) := by
      intro hmem
      obtain ⟨e, he, rfl⟩ := List.mem_map.mp hmem
      rw [lookup_eq_some h he] at hnone
      exact hnone rfl
    rw [List.map_append, List.map_singleton]
    exact h.append (List.nodup_singleton _) (by simpa using hfresh)

theorem mem_addFirst {α : Type} {entries : List (String × α)} {name : String} {value : α}
    {e : String × α} (h : e ∈ addFirst entries name value) : e ∈ entries ∨ e = (name, value) := by
  unfold addFirst at h
  split at h
  · exact Or.inl h
  · simpa using h

/-- Operations that stand under their own names, none of them twice. -/
structure Operations.WellFormed (operations : List (String × Operation)) : Prop where
  nodup : (operations.map (·.1)).Nodup
  name_eq : ∀ e ∈ operations, e.2.name = e.1

theorem wellFormed_addFirst {operations : List (String × Operation)}
    (h : Operations.WellFormed operations) {name : String} {o : Operation} (ho : o.name = name) :
    Operations.WellFormed (addFirst operations name o) := by
  refine ⟨nodup_addFirst h.nodup name o, fun e he => ?_⟩
  rcases mem_addFirst he with he | rfl
  · exact h.name_eq e he
  · exact ho

theorem wellFormed_operationsOf (definitions : Node) (elements : List (String × Node)) :
    Operations.WellFormed (operationsOf definitions elements) := by
  -- the operations collected so far are well-formed, whatever nodes are left
  refine List.foldlRecOn (motive := Operations.WellFormed) _ _
    ⟨.nil, fun _ he => absurd he List.not_mem_nil⟩ ?_
  intro acc h node _
  cases nonEmptyAttribute? node.attributes "name" with
  | none => exact h
  | some name => exact wellFormed_addFirst h rfl

namespace Model

variable {octets : Text.Octets} {m : Model}

/-- A description is loaded if it is parsed, and the model is that of its root. -/
theorem load_eq_ok_iff :
    load octets = .ok m ↔ ∃ root, Node.parse octets = .ok root ∧ ofDefinitions root = m := by
  rw [load]
  cases Node.parse octets <;> simp [Except.map]

theorem load_of_parse {root : Node} (h : Node.parse octets = .ok root) :
    load octets = .ok (ofDefinitions root) := load_eq_ok_iff.mpr ⟨root, h, rfl⟩

theorem wellFormed_load (h : load octets = .ok m) : Operations.WellFormed m.operations := by
  obtain ⟨root, -, rfl⟩ := load_eq_ok_iff.mp h
  exact wellFormed_operationsOf root _

/-- An operation of a loaded model is found by its name. -/
theorem operation?_load (h : load octets = .ok m) {o : Operation}
    (ho : o ∈ m.operations.map (·.2)) : m.operation? o.name = some o := by
  obtain ⟨e, he, rfl⟩ := List.mem_map.mp ho
  have hm := wellFormed_load h
  rw [operation?, hm.name_eq e he]
  exact lookup_eq_some hm.nodup he

/-- No operation of a loaded model is named twice. -/
theorem nodup_operationNames (h : load octets = .ok m) : m.operationNames.Nodup :=
  (wellFormed_load h).nodup

end Model

end ContractDrift.Wsdl
