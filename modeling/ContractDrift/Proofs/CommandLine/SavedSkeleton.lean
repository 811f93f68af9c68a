/-
A skeleton that is saved from standard output.

`skeleton` prints an envelope that `validate-soap` accepts (`Soap.validateIn_skeleton`), but the log
goes to standard output as well, in front of the envelope.  So what is saved from there is the
envelope if the log shows nothing (`IsSilent`), and else a text that starts with a time, which is no
document.  `run_skeleton_saved` states this for the two runs of the program.

Design notes: the second run finds the settings, the description and the file that has been saved
(`HasSaved`), whatever else is different for it.  To write the file to another place than the
settings and the description is one way to come there (`hasSaved_of_writeFile`).
-/
import ContractDrift.Proofs.CommandLine.Agreement
import ContractDrift.Proofs.Drift.Moment
import ContractDrift.Proofs.Files.Writing
import ContractDrift.Proofs.Soap.Skeleton
import ContractDrift.Proofs.Wsdl.Declarations
import ContractDrift.Proofs.Xml.LeadingText

namespace ContractDrift.CommandLine

open ContractDrift.Log (Level Note)
open ContractDrift.Wsdl (Direction Model Operation)

variable {s : Settings} {w : Surroundings} {root : Xml.Node} {least : Level}

/-! ## The log of a description -/

/-- The stored description is located, read and parsed, and this is its root. -/
def HasDescription (s : Settings) (w : Surroundings) (root : Xml.Node) : Prop :=
  ∃ r octets, HasFiles s w r ∧ r.read s.wsdlPath = .ok octets ∧ Xml.Node.parse octets = .ok root

theorem HasDescription.hasModel (h : HasDescription s w root) :
    HasModel s w (Model.ofDefinitions root) := by
  obtain ⟨r, octets, hfiles, hread, hparse⟩ := h
  exact ⟨r, octets, hfiles, hread, Model.load_of_parse hparse⟩

theorem HasDescription.exists_notes_eq (h : HasDescription s w root) :
    ∃ r, storedModelNotes s w = Log.ofReading r s.wsdlPath ++ Log.ofDefinitions root := by
  obtain ⟨r, octets, hfiles, hread, hparse⟩ := h
  refine ⟨r, ?_⟩
  rw [storedModelNotes, storedFiles_eq_ok_iff.mpr hfiles]
  simp only [hread, Log.ofDescription, hparse]

theorem level_of_mem_ofReading {r : Files.Reader} {path : String} {n : Note}
    (hn : n ∈ Log.ofReading r path) : n.level = .debug := by
  unfold Log.ofReading at hn
  split at hn
  · rw [List.mem_singleton.mp hn]
  · exact absurd hn List.not_mem_nil

/-- The notes on a root are a warning if it does not have its name, notes for debugging, and one for
information. -/
theorem level_of_mem_ofDefinitions {n : Note} (hn : n ∈ Log.ofDefinitions root) :
    n.level = .debug ∨ n.level = .info ∨ n.level = .warning ∧ root.name ≠ "definitions" := by
  unfold Log.ofDefinitions at hn
  rcases List.mem_append.mp hn with hn | hn
  · rcases List.mem_append.mp hn with hn | hn
    · split at hn
      · exact absurd hn List.not_mem_nil
      · rename_i hname
        rw [List.mem_singleton.mp hn]
        exact Or.inr (Or.inr ⟨rfl, hname⟩)
    · obtain ⟨wrapper, -, rfl⟩ := List.mem_map.mp hn
      exact Or.inl rfl
  · rw [List.mem_singleton.mp hn]
    exact Or.inr (Or.inl rfl)

theorem exists_info_ofDefinitions (root : Xml.Node) :
    ∃ n ∈ Log.ofDefinitions root, n.level = .info :=
  ⟨_, List.mem_append_right _ List.mem_cons_self, rfl⟩

theorem exists_warning_ofDefinitions (hname : root.name ≠ "definitions") :
    ∃ n ∈ Log.ofDefinitions root, n.level = .warning := by
  rw [Log.ofDefinitions, if_neg hname]
  exact ⟨_, List.mem_append_left _ (List.mem_append_left _ List.mem_cons_self), rfl⟩

/-- A log from a level on shows nothing about a description: the level is above that of warnings, or
it is that of warnings and the root has its name. -/
def IsSilent (least : Level) (root : Xml.Node) : Prop :=
  least = .error ∨ least = .critical ∨ least = .warning ∧ root.name = "definitions"

/-- The lines of the log on loading the description. -/
def logLines (s : Settings) (w : Surroundings) (least : Level) : List String :=
  ((storedModelNotes s w).filter (·.isShown least)).map (·.line w.clock)

theorem logLines_eq_nil_iff (h : HasDescription s w root) :
    logLines s w least = [] ↔ IsSilent least root := by
  obtain ⟨r, hnotes⟩ := h.exists_notes_eq
  rw [logLines, List.map_eq_nil_iff, List.filter_eq_nil_iff, hnotes]
  simp only [Note.isShown, decide_eq_true_eq]
  constructor
  · intro hnone
    have hbelow {n : Note} (hn : n ∈ Log.ofDefinitions root) : ¬ least.rank ≤ n.level.rank :=
      hnone n (List.mem_append_right _ hn)
    obtain ⟨info, hinfo, hlevel⟩ := exists_info_ofDefinitions root
    have hinfo := hbelow hinfo
    rw [hlevel] at hinfo
    cases least with
    | debug | info => exact absurd (by decide) hinfo
    | warning =>
      refine Or.inr (Or.inr ⟨rfl, ?_⟩)
      by_contra hname
      obtain ⟨n, hn, hlevel⟩ := exists_warning_ofDefinitions hname
      have hn := hbelow hn
      rw [hlevel] at hn
      exact hn (by decide)
    | error => exact Or.inl rfl
    | critical => exact Or.inr (Or.inl rfl)
  · intro hsilent n hn
    have hlevel : n.level = .debug ∨ n.level = .info ∨
        n.level = .warning ∧ root.name ≠ "definitions" := by
      rcases List.mem_append.mp hn with hn | hn
      · exact Or.inl (level_of_mem_ofReading hn)
      · exact level_of_mem_ofDefinitions hn
    rcases hsilent with rfl | rfl | ⟨rfl, hroot⟩ <;>
      rcases hlevel with hlevel | hlevel | ⟨hlevel, hname⟩ <;> rw [hlevel]
    -- only a warning on the root comes up to the level of warnings
    case inr.inr.inr.inr => exact absurd hroot hname
    all_goals decide

/-! ## Standard output -/

/-- What a session writes to standard output. -/
def Session.written (x : Session) : String := String.join (x.output.map (· ++ "\n"))

theorem run_of_load {arguments : List String} {i : Invocation}
    (hparse : Invocation.parse arguments = .ok i)
    (hload : Settings.load w.files w.place w.environment [] = .ok s) :
    run w arguments =
      (execute s w i.command).session w i.command.name (i.logLevel.getD s.logLevel) := by
  simp only [run, hparse, hload]

/-- A skeleton is printed behind the log. -/
theorem session_skeleton {command operation : String} {d : Direction} {m : Model} {o : Operation}
    {envelope : String} (hm : HasModel s w m) (ho : m.operation? operation = some o)
    (henvelope : Soap.buildIn o d [] Soap.defaultNamespace = .ok envelope) :
    (execute s w (.skeleton operation d)).session w command least =
      ⟨logLines s w least ++ [envelope], [], none, [], .status statusFine⟩ := by
  rw [execute_skeleton hm ho henvelope]
  rfl

/-! ## Lines that start with a time -/

/-- A text starts with two digits. -/
def StartsWithDigits (text : String) : Prop :=
  ∃ c d cs, text.toList = c :: d :: cs ∧ c.isDigit = true ∧ d.isDigit = true

theorem StartsWithDigits.append {a : String} (h : StartsWithDigits a) (b : String) :
    StartsWithDigits (a ++ b) := by
  obtain ⟨c, d, cs, ha, hc, hd⟩ := h
  exact ⟨c, d, cs ++ b.toList, by rw [String.toList_append, ha]; rfl, hc, hd⟩

/-- A moment is shown with its year first. -/
theorem startsWithDigits_logText (m : Drift.Moment) : StartsWithDigits m.logText := by
  have hyear : StartsWithDigits (Drift.padded 4 m.year) := by
    have hlength := Drift.width_le_length_padded 4 m.year
    have hdigits := Drift.isDigit_of_mem_padded 4 m.year
    match h : (Drift.padded 4 m.year).toList with
    | [] => simp [h] at hlength
    | [c] => simp [h] at hlength
    | c :: d :: cs =>
      rw [h] at hdigits
      exact ⟨c, d, cs, h, hdigits c List.mem_cons_self,
        hdigits d (List.mem_cons_of_mem c List.mem_cons_self)⟩
  simp only [Drift.Moment.logText, String.append_assoc]
  exact hyear.append _

/-- A note is shown with the time first. -/
theorem startsWithDigits_line {clock : String} (h : StartsWithDigits clock) (n : Note) :
    StartsWithDigits (n.line clock) := by
  have hline : n.line clock = clock ++ " - " ++ n.source ++ " - " ++ n.level.name ++ " - " ++
      n.text := rfl
  simp only [hline, String.append_assoc]
  exact h.append _

/-- What is printed behind a log that shows something starts with its time. -/
theorem startsWithDigits_join (hclock : ∃ moment : Drift.Moment, w.clock = moment.logText)
    (hlines : logLines s w least ≠ []) (printed : List String) :
    StartsWithDigits (String.join ((logLines s w least ++ printed).map (· ++ "\n"))) := by
  obtain ⟨moment, hclock⟩ := hclock
  obtain ⟨line, lines, heq⟩ := List.exists_cons_of_ne_nil hlines
  have hline : StartsWithDigits line := by
    obtain ⟨n, -, rfl⟩ := List.mem_map.mp (heq ▸ List.mem_cons_self : line ∈ logLines s w least)
    exact startsWithDigits_line (hclock ▸ startsWithDigits_logText moment) n
  have hjoin : String.join ((logLines s w least ++ printed).map (· ++ "\n")) =
      line ++ ("\n" ++ String.join ((lines ++ printed).map (· ++ "\n"))) := by
    rw [heq]
    apply String.toList_inj.mp
    simp [String.toList_join]
  rw [hjoin]
  exact hline.append _

/-- What starts with digits is not accepted as an envelope. -/
theorem answers_of_startsWithDigits {m : Model} {o : Operation} {envelope operation text : String}
    {d : Direction} (hm : HasModel s w m) (ho : m.operation? operation = some o)
    (hopen : w.files.open? w.place (Files.tidy envelope) = .ok (Text.utf8 text))
    (h : StartsWithDigits text) (strict : Bool) :
    Answers s w (.validateSoap envelope operation d strict) false := by
  obtain ⟨a, b, cs, htext, ha, hb⟩ := h
  obtain ⟨e, hparse, hcontent⟩ := Xml.parse_digits ha hb cs
  rw [← htext] at hparse
  have hreadable : Soap.IsReadable (Text.utf8 text) := by
    intro e' he'
    cases he'.symm.trans hparse
    exact hcontent
  refine answers_of_not_hasBody hm ho hopen hreadable (fun body hbody => ?_) strict
  obtain ⟨root, hroot, -⟩ := hbody
  exact nomatch hroot.symm.trans hparse

/-! ## Saving -/

/-- Surroundings with the settings and the description, where a text is saved in a file. -/
structure HasSaved (s : Settings) (root : Xml.Node) (w : Surroundings) (file text : String) :
    Prop where
  load : Settings.load w.files w.place w.environment [] = .ok s
  description : HasDescription s w root
  saved : w.files.open? w.place (Files.tidy file) = .ok (Text.utf8 text)

/-- The surroundings with other files. -/
def Surroundings.withFiles (w : Surroundings) (files : Files.Tree) : Surroundings :=
  { w with files }

theorem HasFiles.withFiles {r : Files.Reader} (h : HasFiles s w r) (files : Files.Tree) :
    r = ⟨w.files, Files.resolve w.place s.contractsRoot⟩ ∧
      HasFiles s (w.withFiles files) ⟨files, Files.resolve w.place s.contractsRoot⟩ := by
  rw [HasFiles, Files.Reader.open?_eq] at h
  split at h
  · cases h
  · rename_i hnull
    refine ⟨(Except.ok.inj h).symm, ?_⟩
    rw [HasFiles, Files.Reader.open?_eq, if_neg hnull]
    rfl

/-- The settings and the description are found after a text has been saved to another file. -/
theorem hasSaved_of_writeFile {after : Files.Tree} {file text : String}
    (hload : Settings.load w.files w.place w.environment [] = .ok s)
    (hroot : HasDescription s w root)
    (hwrite : w.files.writeFile w.place (Files.tidy file) (Text.utf8 text) = .ok after)
    (hother : ∀ q, w.files.locate w.place (Files.tidy file) = .ok q →
      q ≠ w.place ++ [Settings.fileName] ∧
        q ≠ Files.resolve (Files.resolve w.place s.contractsRoot) s.wsdlPath) :
    HasSaved s root (w.withFiles after) file text := by
  have hsaved := Files.Tree.open?_of_writeFile hwrite
  obtain ⟨q, hlocate, hafter⟩ := bind_eq_ok_iff.mp hwrite
  split at hafter
  · cases hafter
  obtain rfl := Except.ok.inj hafter
  obtain ⟨hsettings, hdescription⟩ := hother q hlocate
  obtain ⟨r, octets, hfiles, hread, hparse⟩ := hroot
  obtain ⟨rfl, hfiles'⟩ := hfiles.withFiles (w.files.insert q (.file (Text.utf8 text)))
  -- the description stands elsewhere, so it is read as before
  have hne : Files.Reader.resolve ⟨w.files, Files.resolve w.place s.contractsRoot⟩ s.wsdlPath ≠
      .ok q := by
    intro hresolve
    rw [Files.Reader.resolve_eq] at hresolve
    split at hresolve
    · cases hresolve
    split at hresolve
    · exact hdescription (Except.ok.inj hresolve).symm
    · cases hresolve
  have hread' : Files.Reader.read ⟨w.files.insert q (.file (Text.utf8 text)),
      Files.resolve w.place s.contractsRoot⟩ s.wsdlPath = .ok octets :=
    Files.Reader.read_insert hread hne
  refine ⟨?_, ⟨_, octets, hfiles', hread', hparse⟩, hsaved⟩
  rw [← hload]
  simp only [Settings.load, Settings.fileText, Surroundings.withFiles,
    Files.Tree.file?_insert_of_ne w.files _ hsettings.symm]

/-! ## The two runs -/

theorem ending_of_hasSaved {w' : Surroundings} {arguments : List String} {level : Option Level}
    {file text operation : String} {d : Direction} {fine : Bool}
    (hparse : Invocation.parse arguments = .ok ⟨level, .validateSoap file operation d true⟩)
    (h : HasSaved s root w' file text)
    (hanswers : Answers s w' (.validateSoap file operation d true) fine) :
    (run w' arguments).ending = .status (statusOf fine) := by
  rw [run_of_load hparse h.load]
  exact ending_of_answers hanswers

/-- A skeleton is printed behind the log.  If the envelope is saved, or all that is printed where
the log shows nothing, it is accepted as an envelope of its operation, in strict mode too; if there
are lines of the log in front of it, what is saved is not accepted. -/
theorem run_skeleton_saved {arguments : List String} {level : Option Level} {operation : String}
    {d : Direction} {o : Operation}
    (hparse : Invocation.parse arguments = .ok ⟨level, .skeleton operation d⟩)
    (hload : Settings.load w.files w.place w.environment [] = .ok s)
    (hroot : HasDescription s w root)
    (ho : (Model.ofDefinitions root).operation? operation = some o)
    (hnames : Soap.HasPlainNames o d)
    (hclock : ∃ moment : Drift.Moment, w.clock = moment.logText) :
    ∃ lines envelope, (run w arguments).output = lines ++ [envelope] ∧
      (run w arguments).ending = .status statusFine ∧
      (lines = [] ↔ IsSilent (level.getD s.logLevel) root) ∧
      ∀ w' arguments' level' file,
        Invocation.parse arguments' = .ok ⟨level', .validateSoap file operation d true⟩ →
        (HasSaved s root w' file (envelope ++ "\n") →
          (run w' arguments').ending = .status statusFine) ∧
        (HasSaved s root w' file (run w arguments).written →
          (run w' arguments').ending = .status (statusOf lines.isEmpty)) := by
  obtain rfl := (Wsdl.Model.operation?_eq_some_iff.mp ho).name_eq
  obtain ⟨envelope, hbuild, hvalid⟩ := Soap.validateIn_skeleton hnames
  have hsession : run w arguments = ⟨logLines s w (level.getD s.logLevel) ++ [envelope], [], none,
      [], .status statusFine⟩ := by
    rw [run_of_load hparse hload]
    exact session_skeleton hroot.hasModel ho hbuild
  refine ⟨logLines s w (level.getD s.logLevel), envelope, by rw [hsession], by rw [hsession],
    logLines_eq_nil_iff hroot, fun w' arguments' level' file hparse' => ?_⟩
  have hsaved (h : HasSaved s root w' file (envelope ++ "\n")) :
      (run w' arguments').ending = .status statusFine := by
    obtain ⟨v, hv, hfine⟩ := hvalid (Model.ofDefinitions root) true "\n" ho (by simp [Xml.isSpace])
    have hanswers : Answers s w' (.validateSoap file o.name d true) true :=
      ⟨_, _, v, h.description.hasModel, h.saved, hv, hfine.symm⟩
    exact ending_of_hasSaved hparse' h hanswers
  refine ⟨hsaved, fun h => ?_⟩
  rw [Session.written, hsession] at h
  cases hlines : logLines s w (level.getD s.logLevel) with
  | nil =>
    rw [hlines] at h
    exact hsaved h
  | cons line lines =>
    -- whatever the envelope is, the time of the first line makes what is saved no document
    have hstart := startsWithDigits_join hclock (hlines ▸ List.cons_ne_nil line lines) [envelope]
    exact ending_of_hasSaved hparse' h
      (answers_of_startsWithDigits h.description.hasModel ho h.saved hstart true)

/-! ## A skeleton that is saved with and without the log -/

/-- A description of an operation that takes one required field. -/
def pingDefinitions : String :=
  "<definitions><types><schema><element name='PingRequest'><complexType><sequence><element name='a'/></sequence></complexType></element></schema></types><binding><operation name='Ping'/></binding></definitions>"

/-- The time of the two runs. -/
def pingTime : Drift.Moment := ⟨2024, 1, 2, 3, 4, 5, 678000, some 0⟩

/-- The description in the place that the runs start in. -/
def pinging : Surroundings where
  files := ⟨[(["srv", "ping.wsdl"], .file (Text.utf8 pingDefinitions))]⟩
  place := ["srv"]
  environment := [("SENTINEL_WSDL_PATH", some "ping.wsdl")]
  network := fun _ => .problem ⟨"ConnectError", "the network is out of reach"⟩
  now := pingTime
  clock := pingTime.logText

/-- The arguments that ask for a check of what has been saved. -/
def checkSaved : List String :=
  ["validate-soap", "out.xml", "--operation", "Ping", "--strict"]

theorem parse_checkSaved : Invocation.parse checkSaved =
    .ok ⟨none, .validateSoap "out.xml" "Ping" .input true⟩ := by decide +kernel

theorem load_pinging : ∃ s, Settings.load pinging.files pinging.place pinging.environment [] =
    .ok s ∧ s.contractsRoot = "." ∧ s.wsdlPath = "ping.wsdl" ∧ s.logLevel = .info := by
  have h : (match Settings.load pinging.files pinging.place pinging.environment [] with
      | .ok s => s.contractsRoot == "." && s.wsdlPath == "ping.wsdl" && s.logLevel == .info
      | .error _ => false) = true := by decide +kernel
  split at h
  · rename_i s hs
    simp only [Bool.and_eq_true, beq_iff_eq] at h
    exact ⟨s, hs, h.1.1, h.1.2, h.2⟩
  · cases h

set_option maxRecDepth 4000 in
theorem hasDescription_pinging (hroot : s.contractsRoot = ".") (hpath : s.wsdlPath = "ping.wsdl") :
    ∃ root o, HasDescription s pinging root ∧ root.name = "definitions" ∧
      (Model.ofDefinitions root).operation? "Ping" = some o ∧ Soap.HasPlainNames o .input := by
  have hopen : HasFiles s pinging ⟨pinging.files, ["srv"]⟩ := by
    rw [HasFiles, hroot]
    rfl
  have hread : Files.Reader.read ⟨pinging.files, ["srv"]⟩ s.wsdlPath =
      .ok (Text.utf8 pingDefinitions) := by
    rw [hpath]
    rfl
  have hdeclared : (Xml.Node.parse (Text.utf8 pingDefinitions)).toOption.map (fun root =>
      (root.name, ((Model.ofDefinitions root).operation? "Ping").map fun o =>
        (o.name, Wsdl.Field.allNames (o.fieldsFor .input)))) =
      some ("definitions", some ("Ping", ["a"])) := by
    rw [pingDefinitions, Text.utf8_ofList]
    decide +kernel
  obtain ⟨root, hparse, hfound⟩ := Option.map_eq_some_iff.mp hdeclared
  obtain ⟨hname, hoperation⟩ := Prod.mk.inj hfound
  obtain ⟨o, ho, hfields⟩ := Option.map_eq_some_iff.mp hoperation
  obtain ⟨honame, hnames⟩ := Prod.mk.inj hfields
  refine ⟨root, o, ⟨_, _, hopen, hread, toOption_eq_some_iff.mp hparse⟩, hname, ho, ?_, ?_⟩
  · rw [honame]
    decide
  · rw [hnames]
    decide

/-- Whatever is printed can be saved beside the description. -/
theorem hasSaved_pinging {root : Xml.Node}
    (hload : Settings.load pinging.files pinging.place pinging.environment [] = .ok s)
    (hroot : s.contractsRoot = ".") (hpath : s.wsdlPath = "ping.wsdl")
    (hdescription : HasDescription s pinging root) (text : String) :
    ∃ after, pinging.files.writeFile pinging.place "out.xml" (Text.utf8 text) = .ok after ∧
      HasSaved s root (pinging.withFiles after) "out.xml" text := by
  have htidy : Files.tidy "out.xml" = "out.xml" := by decide +kernel
  have hlocate : pinging.files.locate pinging.place "out.xml" = .ok ["srv", "out.xml"] := by
    decide +kernel
  have hwrite : pinging.files.writeFile pinging.place "out.xml" (Text.utf8 text) =
      .ok (pinging.files.insert ["srv", "out.xml"] (.file (Text.utf8 text))) := by
    rw [Files.Tree.writeFile, hlocate]
    rfl
  refine ⟨_, hwrite, hasSaved_of_writeFile hload hdescription (by rw [htidy, hwrite]) ?_⟩
  intro q hq
  rw [htidy] at hq
  obtain rfl := Except.ok.inj (hlocate.symm.trans hq)
  rw [hroot, hpath]
  decide +kernel

/-- At its own level the log stands before the envelope, and what is saved is not accepted. -/
theorem run_savedLog_pinging : ∃ s root o after,
    Settings.load pinging.files pinging.place pinging.environment [] = .ok s ∧
    HasDescription s pinging root ∧ (Model.ofDefinitions root).operation? "Ping" = some o ∧
    Soap.HasPlainNames o .input ∧
    pinging.files.writeFile pinging.place "out.xml"
      (Text.utf8 (run pinging ["skeleton", "Ping"]).written) = .ok after ∧
    HasSaved s root (pinging.withFiles after) "out.xml"
      (run pinging ["skeleton", "Ping"]).written ∧
    (run (pinging.withFiles after) checkSaved).ending = .status statusFailed := by
  obtain ⟨s, hload, hroot, hpath, hlevel⟩ := load_pinging
  obtain ⟨root, o, hdescription, -, ho, hnames⟩ := hasDescription_pinging hroot hpath
  obtain ⟨after, hwrite, hsaved⟩ := hasSaved_pinging hload hroot hpath hdescription
    (run pinging ["skeleton", "Ping"]).written
  refine ⟨s, root, o, after, hload, hdescription, ho, hnames, hwrite, hsaved, ?_⟩
  -- at this level the log has lines, and they stand in front of the envelope
  have hshown : logLines s pinging s.logLevel ≠ [] := by
    rw [ne_eq, logLines_eq_nil_iff hdescription, hlevel]
    rintro (h | h | ⟨h, -⟩) <;> cases h
  obtain ⟨envelope, hbuild, -⟩ := Soap.validateIn_skeleton hnames
  have hwritten : (run pinging ["skeleton", "Ping"]).written =
      String.join ((logLines s pinging s.logLevel ++ [envelope]).map (· ++ "\n")) := by
    have hparse : Invocation.parse ["skeleton", "Ping"] = .ok ⟨none, .skeleton "Ping" .input⟩ := by
      decide +kernel
    rw [run_of_load hparse hload, session_skeleton hdescription.hasModel ho hbuild]
    rfl
  have hstart : StartsWithDigits (run pinging ["skeleton", "Ping"]).written := by
    rw [hwritten]
    exact startsWithDigits_join ⟨pingTime, rfl⟩ hshown [envelope]
  exact ending_of_hasSaved parse_checkSaved hsaved
    (answers_of_startsWithDigits hsaved.description.hasModel ho hsaved.saved hstart true)

/-- From the level of warnings on there is the envelope only, and what is saved is accepted. -/
theorem run_skeleton_saved_pinging : ∃ after,
    pinging.files.writeFile pinging.place "out.xml"
      (Text.utf8 (run pinging ["--log-level", "WARNING", "skeleton", "Ping"]).written) =
        .ok after ∧
    (run (pinging.withFiles after) checkSaved).ending = .status statusFine := by
  obtain ⟨s, hload, hroot, hpath, -⟩ := load_pinging
  obtain ⟨root, o, hdescription, hname, ho, hnames⟩ := hasDescription_pinging hroot hpath
  have hparse : Invocation.parse ["--log-level", "WARNING", "skeleton", "Ping"] =
      .ok ⟨some .warning, .skeleton "Ping" .input⟩ := by decide +kernel
  obtain ⟨lines, envelope, -, -, hlines, hsecond⟩ :=
    run_skeleton_saved hparse hload hdescription ho hnames ⟨pingTime, rfl⟩
  obtain ⟨after, hwrite, hsaved⟩ := hasSaved_pinging hload hroot hpath hdescription
    (run pinging ["--log-level", "WARNING", "skeleton", "Ping"]).written
  -- at this level the log is empty
  have hempty : lines = [] := hlines.mpr (Or.inr (Or.inr ⟨rfl, hname⟩))
  have hending := (hsecond _ _ _ _ parse_checkSaved).2 hsaved
  rw [hempty] at hending
  exact ⟨after, hwrite, hending⟩

end ContractDrift.CommandLine
