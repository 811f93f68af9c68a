/-
Reports that are saved and read again.

The main statement is `savedReport_roundTrip`: the file that a report is saved to holds a JSON
object that records the report, and from which the report is rebuilt.
-/
import ContractDrift.CommandLine.Run
import ContractDrift.Proofs.Drift.Record
import ContractDrift.Proofs.Files.Writing

namespace ContractDrift.CommandLine

open ContractDrift.Drift (Report Records)

variable {files after : Files.Tree} {place : Files.Path} {directory : String} {report : Report}

/-- What is saved is found in the directory under the name of the report. -/
theorem open?_of_withReport (h : withReport files place directory report = .ok after) :
    after.open? place (Files.join directory report.fileName) = .ok (Text.utf8 report.fileText) := by
  obtain ⟨made, -, hwritten⟩ := bind_eq_ok_iff.mp h
  exact Files.Tree.open?_of_writeFile hwritten

/-- The file that a report is saved to is read as a JSON object that records the report: its time,
its results in order and their numbers.  The report is rebuilt from it, and its flag, its exit
status and the number of contracts that have drifted tell the same.  A number with more digits
than an integer may have is refused by readers, but there is no room for as many results. -/
theorem savedReport_roundTrip (hsize : report.results.length < 10 ^ Json.digitLimit)
    (hsaved : withReport files place directory report = .ok after) :
    ∃ octets v, after.open? place (Files.join directory report.fileName) = .ok octets ∧
      Json.parseOctets octets = .ok v ∧ Records v report ∧ Report.ofJson? v = some report ∧
      (report.hasDrift = true ↔ report.exitStatus = 1) ∧
      (report.exitStatus = 1 ↔ 0 < report.summary.drifted) := by
  have hexit : report.hasDrift = true ↔ report.exitStatus = 1 :=
    (Report.exitStatus_eq_one_iff report).symm
  exact ⟨_, _, open?_of_withReport hsaved, Drift.parseOctets_fileText hsize,
    Drift.records_toJson report, Drift.ofJson?_toJson report, hexit,
    hexit.symm.trans (Drift.hasDrift_iff report)⟩

/-- A report whose names and details have quotes, control characters and characters of every
width. -/
def quotedReport : Report :=
  ⟨"2026-02-22T10:00:00+00:00",
    [⟨"\"orders\" \\ \x01\x7f", true, ["removed: \n\r\t\x0c\x08", "\u00e9\u20ac😀"]⟩,
     ⟨"", false, []⟩]⟩

theorem savedReport_roundTrip_quoted : ∃ after octets v,
    quotedReport.results.length < 10 ^ Json.digitLimit ∧
    withReport (.ofDirectory ["srv"]) ["srv"] "reports/drift" quotedReport = .ok after ∧
    after.open? ["srv"] (Files.join "reports/drift" quotedReport.fileName) = .ok octets ∧
    Json.parseOctets octets = .ok v ∧ Records v quotedReport ∧
    Report.ofJson? v = some quotedReport ∧ quotedReport.exitStatus = 1 := by
  have hsize : quotedReport.results.length < 10 ^ Json.digitLimit := by decide +kernel
  have hsome : (withReport (.ofDirectory ["srv"]) ["srv"] "reports/drift" quotedReport).isOk =
      true := by decide +kernel
  cases hsaved : withReport (.ofDirectory ["srv"]) ["srv"] "reports/drift" quotedReport with
  | error e =>
    rw [hsaved] at hsome
    cases hsome
  | ok after =>
    obtain ⟨octets, v, hopen, hparse, hrecords, hrebuilt, hexit, -⟩ :=
      savedReport_roundTrip hsize hsaved
    exact ⟨after, octets, v, hsize, rfl, hopen, hparse, hrecords, hrebuilt, hexit.mp rfl⟩

end ContractDrift.CommandLine
