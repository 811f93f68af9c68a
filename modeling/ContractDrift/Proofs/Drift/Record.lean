/-
What the file of a report says.

`Records` states which JSON value records a report: an object with the time, the results in their
order and their numbers, and with nothing else.  A report is recorded by what it is written as
(`records_toJson`) and rebuilt from it (`ofJson?_toJson`), and since its text is read as it was
written, its file holds this value (`parseOctets_fileText`).  The numbers of a report, its flag
and its exit status tell the same (`hasDrift_iff`).
-/
import Mathlib.Data.List.Forall2
import ContractDrift.Drift.Report
import ContractDrift.Proofs.Json.WrittenValue
import ContractDrift.Proofs.Outcome

namespace ContractDrift.Drift

open ContractDrift.Json (Value)

/-- A JSON value records a result: it has its name, its flag and its details in order. -/
def RecordsResult (v : Value) (r : Result) : Prop :=
  ∃ details : List Value, v = .object [("schema_name", .text r.name), ("drifted", .bool r.drifted),
      ("details", .array details)] ∧
    List.Forall₂ (fun v detail => v = .text detail) details r.details

/-- A JSON value records a report: it has its time, its results in order and their numbers. -/
def Records (v : Value) (r : Report) : Prop :=
  ∃ (results : List Value) (total drifted clean : Nat),
    v = .object [("timestamp", .text r.timestamp), ("results", .array results),
      ("summary", .object [("total", .int total), ("drifted", .int drifted),
        ("clean", .int clean)])] ∧
    List.Forall₂ RecordsResult results r.results ∧
    total = r.results.length ∧ drifted = r.results.countP (·.drifted) ∧ total = drifted + clean

/-! ## Results -/

theorem recordsResult_toJson (r : Result) : RecordsResult r.toJson r :=
  ⟨r.details.map .text, rfl, List.forall₂_map_left_iff.mpr (List.forall₂_same.mpr fun _ _ => rfl)⟩

theorem texts_map_text (field : String) (details : List String) :
    Record.texts field (.array (details.map .text)) = .ok details := by
  rw [Record.texts, if_pos, Value.filterMap_text?]
  rw [List.isEmpty_iff, List.filterMap_eq_nil_iff]
  rintro ⟨x, i⟩ hx
  obtain ⟨d, -, rfl⟩ := List.mem_map.mp (List.fst_mem_of_mem_zipIdx hx)
  rfl

theorem ofJson_toJson (r : Result) : Result.ofJson r.toJson = .ok r := by
  have hdetails := texts_map_text "details" r.details
  have hname : Json.Members.get? (r.toJson.members?.getD []) "schema_name" =
    some (.text r.name) := rfl
  have hdrifted : Json.Members.get? (r.toJson.members?.getD []) "drifted" =
    some (.bool r.drifted) := rfl
  have hkept : Json.Members.get? (r.toJson.members?.getD []) "details" =
    some (.array (r.details.map .text)) := rfl
  simp only [Result.ofJson, Record.required, Record.optional, hname, hdrifted, hkept, hdetails]
  rfl

/-! ## Reports -/

variable {r : Report}

theorem records_toJson (r : Report) : Records r.toJson r := by
  refine ⟨_, _, _, _, rfl, ?_, rfl, ?_, Report.total_summary r⟩
  · exact List.forall₂_map_left_iff.mpr (List.forall₂_same.mpr fun x _ => recordsResult_toJson x)
  · exact List.countP_eq_length_filter.symm

/-- A report is rebuilt from what it is written as. -/
theorem ofJson?_toJson (r : Report) : Report.ofJson? r.toJson = some r := by
  have hresults : (r.results.map Result.toJson).mapM Result.ofJson = .ok r.results := by
    induction r.results with
    | nil => rfl
    | cons x xs ih =>
      rw [List.map_cons, List.mapM_cons, ofJson_toJson, ih]
      rfl
  have htimestamp : r.toJson.get? "timestamp" = some (.text r.timestamp) := rfl
  have hentries : r.toJson.get? "results" = some (.array (r.results.map Result.toJson)) := rfl
  simp only [Report.ofJson?, htimestamp, hentries, hresults]

/-- A flag for all results, their number and the exit status tell the same. -/
theorem hasDrift_iff (r : Report) : r.hasDrift = true ↔ 0 < r.summary.drifted := by
  rw [Report.hasDrift, List.any_eq_true, Report.summary, List.length_pos_iff_exists_mem]
  simp only [List.mem_filter]

/-! ## The text of a report -/

theorem itemsPlain_texts (details : List String) : Json.ItemsPlain (details.map .text) := by
  induction details with
  | nil => exact trivial
  | cons d ds ih => exact ⟨trivial, ih⟩

theorem itemsPlain_results (results : List Result) :
    Json.ItemsPlain (results.map Result.toJson) := by
  induction results with
  | nil => exact trivial
  | cons x xs ih =>
    refine ⟨⟨by simp, trivial, trivial, ?_, trivial⟩, ih⟩
    exact itemsPlain_texts x.details

/-- A report is kept by its text, unless it has more results than any memory holds. -/
theorem isPlain_toJson (hsize : r.results.length < 10 ^ Json.digitLimit) : r.toJson.IsPlain := by
  have hnumber {n : Nat} (h : n ≤ r.results.length) : (Value.int n).IsPlain := by
    rw [Value.IsPlain]
    exact Nat.lt_of_le_of_lt h hsize
  have hsummary : (Report.summaryJson r.summary).IsPlain :=
    ⟨by simp, hnumber (Nat.le_refl _), hnumber (List.length_filter_le _ _),
      hnumber (Nat.sub_le _ _), trivial⟩
  exact ⟨by simp, trivial, itemsPlain_results r.results, hsummary, trivial⟩

/-- The file of a report holds what records it. -/
theorem parseOctets_fileText (hsize : r.results.length < 10 ^ Json.digitLimit) :
    Json.parseOctets (Text.utf8 r.fileText) = .ok r.toJson := by
  exact Json.parseOctets_writeIndented 2 (isPlain_toJson hsize)

end ContractDrift.Drift
