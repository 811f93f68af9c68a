/-
Reports of different runs stand side by side.

A report that is saved makes its directory and writes one file, which has a name of its own
(`Drift.eq_of_fileName`) and so stands at a path of its own.  The main statement is
`savedReports_apart`: the files of reports of different times have different names, and a report
that is saved leaves the file of every report of another time what it is.
-/
import ContractDrift.CommandLine.Run
import ContractDrift.Proofs.Drift.FileName
import ContractDrift.Proofs.Files.Join

namespace ContractDrift.CommandLine

open ContractDrift.Drift (IsSafeName Moment Report Result)

variable {files after : Files.Tree} {place : Files.Path} {directory directory' name : String}
  {report : Report} {content : Text.Octets}

/-- A file in a directory is found as before after a report of another name has been saved, in
the same directory or in another. -/
theorem open?_of_withReport_of_ne (hname : Files.IsName name)
    (hreport : Files.IsName report.fileName) (hne : name ≠ report.fileName)
    (hopen : files.open? place (Files.join directory name) = .ok content)
    (hsaved : withReport files place directory' report = .ok after) :
    after.open? place (Files.join directory name) = .ok content := by
  obtain ⟨made, hmade, hwritten⟩ := bind_eq_ok_iff.mp hsaved
  refine Files.Tree.open?_of_writeFile_of_ne (Files.Tree.open?_of_makeDirectory hopen hmade)
    hwritten fun p hp hp' => ?_
  have hlast := Files.getLast?_of_locate_join hname hp
  rw [Files.getLast?_of_locate_join hreport hp', Option.some.injEq] at hlast
  exact hne hlast.symm

/-- Reports of different runs never overwrite each other.  The name of a report's file is one that
every file system takes; reports of times that are written differently have files of different
names; and where the file of the one stands in some directory, it is found as before after the
other has been saved, in that directory or in another. -/
theorem savedReports_apart {m m' : Moment} (hm : m.IsValid) (hm' : m'.IsValid)
    (results results' : List Result) :
    IsSafeName (Report.ofResults m results).fileName ∧
    (m.text ≠ m'.text →
      (Report.ofResults m results).fileName ≠ (Report.ofResults m' results').fileName ∧
      ∀ files place directory directory' content after,
        files.open? place (Files.join directory (Report.ofResults m results).fileName) =
            .ok content →
          withReport files place directory' (Report.ofResults m' results') = .ok after →
            after.open? place (Files.join directory (Report.ofResults m results).fileName) =
              .ok content) := by
  refine ⟨Drift.isSafeName_fileName m results, fun htext => ?_⟩
  have hne : (Report.ofResults m results).fileName ≠ (Report.ofResults m' results').fileName :=
    fun h => htext (congrArg Moment.text (Drift.eq_of_fileName hm hm' h))
  exact ⟨hne, fun _ _ _ _ _ _ hopen hsaved => open?_of_withReport_of_ne
    (Drift.isName_fileName m results) (Drift.isName_fileName m' results') hne hopen hsaved⟩

/-- A moment without an offset, and one whose offset stands where the other has a fraction. -/
def fractionOrOffset : Moment × Moment :=
  (⟨2024, 1, 2, 3, 4, 5, 123412, none⟩, ⟨2024, 1, 2, 3, 4, 5, 0, some ⟨-45240000000⟩⟩)

/-- The names of the two differ in one dash. -/
theorem savedReports_apart_fractionOrOffset :
    fractionOrOffset.1.IsValid ∧ fractionOrOffset.2.IsValid ∧
      fractionOrOffset.1.text = "2024-01-02T03:04:05.123412" ∧
      fractionOrOffset.2.text = "2024-01-02T03:04:05-12:34" ∧
      (Report.ofResults fractionOrOffset.1 []).fileName ≠
        (Report.ofResults fractionOrOffset.2 []).fileName := by
  have hfirst : fractionOrOffset.1.IsValid := by
    refine ⟨?_, ?_, ?_, ?_, ?_, ?_, ?_, fun o ho => by cases ho⟩ <;> decide
  have hsecond : fractionOrOffset.2.IsValid := by
    refine ⟨?_, ?_, ?_, ?_, ?_, ?_, ?_, fun o ho => ?_⟩
    case refine_8 =>
      obtain rfl := Option.some.inj ho
      show (45240000000 : Nat) < 86400000000
      decide
    all_goals decide
  have htext : fractionOrOffset.1.text = "2024-01-02T03:04:05.123412" := by decide +kernel
  have htext' : fractionOrOffset.2.text = "2024-01-02T03:04:05-12:34" := by decide +kernel
  have hne : fractionOrOffset.1.text ≠ fractionOrOffset.2.text := by
    rw [htext, htext']
    decide
  exact ⟨hfirst, hsecond, htext, htext', ((savedReports_apart hfirst hsecond [] []).2 hne).1⟩

end ContractDrift.CommandLine
