/-
Reports of drift.

A `Result` says whether one contract has drifted and gives the details; a `Report` holds
the results of one run.  A report is written as a JSON object (`Report.toJson`), which
`Report.ofJson?` reads back, and summed up as lines of text (`summaryText`).
-/
import ContractDrift.Json.Writer
import ContractDrift.Record.Field
import ContractDrift.Drift.Moment

namespace ContractDrift.Drift

open ContractDrift.Json (Value)
open ContractDrift.Record (Checked)

/-- What a check has found. -/
structure Result where
  name : String
  drifted : Bool
  details : List String
  deriving Repr, DecidableEq, Inhabited

/-- The results of one run. -/
structure Report where
  timestamp : String
  results : List Result
  deriving Repr, DecidableEq, Inhabited

/-- How many contracts there are, and how many of them have drifted. -/
structure Summary where
  total : Nat
  drifted : Nat
  clean : Nat
  deriving Repr, DecidableEq, Inhabited

namespace Result

/-- A result as a JSON object. -/
def toJson (r : Result) : Value :=
  .object
    [("schema_name", .text r.name), ("drifted", .bool r.drifted),
     ("details", .array (r.details.map .text))]

/-- Reads a result from the fields of a JSON object. -/
def ofJson (v : Value) : Checked Result := do
  let m := v.members?.getD []
  let (name, drifted, details) ← Record.both (Record.required m "schema_name" Record.text)
    (Record.both (Record.required m "drifted" Record.truth)
      (Record.optional m "details" Record.texts []))
  return ⟨name, drifted, details⟩

end Result

namespace Report

/-- The report of a run at a moment. -/
def ofResults (now : Moment) (results : List Result) : Report := ⟨now.text, results⟩

/-- The numbers of a report. -/
def summary (r : Report) : Summary :=
  let drifted := (r.results.filter (·.drifted)).length
  ⟨r.results.length, drifted, r.results.length - drifted⟩

/-- Whether any contract has drifted. -/
def hasDrift (r : Report) : Bool := r.results.any (·.drifted)

/-- The exit status of a run: one if any contract has drifted. -/
def exitStatus (r : Report) : Nat := if r.hasDrift then 1 else 0

/-- The name of the file for a report: colons and points of its time are dashes. -/
def fileName (r : Report) : String :=
  let safe := r.timestamp.toList.map fun c => if c = ':' ∨ c = '.' then '-' else c
  "drift-report-" ++ String.ofList safe ++ ".json"

/-- The numbers of a report as a JSON object. -/
def summaryJson (s : Summary) : Value :=
  .object [("total", .int s.total), ("drifted", .int s.drifted), ("clean", .int s.clean)]

/-- A report as a JSON object. -/
def toJson (r : Report) : Value :=
  .object
    [("timestamp", .text r.timestamp), ("results", .array (r.results.map Result.toJson)),
     ("summary", summaryJson r.summary)]

/-- The text of a report's file. -/
def fileText (r : Report) : String := Json.writeIndented 2 r.toJson

/-- Reads a report from the fields of a JSON object. -/
def ofJson? (v : Value) : Option Report :=
  match v.get? "timestamp", v.get? "results" with
  | some (.text timestamp), some (.array results) =>
    match results.mapM Result.ofJson with
    | .ok results => some ⟨timestamp, results⟩
    | .error _ => none
  | _, _ => none

/-- The width of the lines that divide a summary. -/
def summaryWidth : Nat := 60

/-- The lines of a summary for one result. -/
def resultLines (r : Result) : List String :=
  ((if r.drifted then "[DRIFT] " else "[   OK] ") ++ r.name) ::
    r.details.map fun d => "        " ++ d

/-- The text that sums a report up. -/
def summaryText (r : Report) : String :=
  let rule := Text.repeated "-" summaryWidth
  let s := r.summary
  "\n".intercalate
    ([rule, "Drift Detection Summary", rule] ++ r.results.flatMap resultLines ++
      [rule, s!"total={s.total} drifted={s.drifted} clean={s.clean}"])

/-- Every contract has drifted or is clean. -/
theorem total_summary (r : Report) :
    r.summary.total = r.summary.drifted + r.summary.clean := by
  have h : (r.results.filter (·.drifted)).length ≤ r.results.length := List.length_filter_le _ _
  simp only [summary]
  omega

/-- A run fails exactly if a contract has drifted. -/
theorem exitStatus_eq_one_iff (r : Report) : r.exitStatus = 1 ↔ r.hasDrift = true := by
  unfold exitStatus
  split <;> simp_all

end Report

end ContractDrift.Drift
