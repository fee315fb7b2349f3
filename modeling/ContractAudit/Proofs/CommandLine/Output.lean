import ContractAudit.CommandLine.Run
import ContractAudit.Proofs.CommandLine.Values
import ContractAudit.Proofs.Files
import ContractAudit.Proofs.Report.Template

/-!
# All of a report or nothing

A run of the command that audits a contract can fail in many places: its arguments, the settings, the
log, the source, the audit, the name of the format, the numbers of the report, the file for it.  All of
them come before anything is written or printed, except for the log, so that a failing run leaves all
other files as they are and prints nothing.  There is one exception: the file is emptied before the
report is encoded, and a report need not be text if the name of the source is not.  A run that succeeds
puts into its file what it would have printed, if the console has the characters.

* `Session.OnlyLogged` -- two sessions differ in nothing but the log;
* `onlyLogged_log`, `onlyLogged_logAll` -- one entry of the journal, and all of them;
* `soFarLogged_prepare`, `soFarLogged_compose` -- up to the command, and up to the report;
* `deliver_failed`, `deliver_done` -- where the report goes;
* `World.Spoils` -- the file for the report is emptied in vain;
* `analyze_writes_all_or_nothing` -- the run as a whole.
-/

namespace ContractAudit

open ContractAudit.Text

namespace CommandLine

/-! ### The log and the rest -/

namespace Session

/-- Nothing but the log has changed: what was printed is the same, and so are all files but the log
file. -/
structure OnlyLogged (logFile : Option Signs) (s t : Session) : Prop where
  stdout_eq : t.stdout = s.stdout
  get?_eq : ∀ path, logFile ≠ some path → t.files.get? path = s.files.get? path

variable {logFile : Option Signs} {l : Log} {s t u : Session}

theorem OnlyLogged.refl (logFile : Option Signs) (s : Session) : OnlyLogged logFile s s :=
  ⟨rfl, fun _ _ => rfl⟩

theorem OnlyLogged.trans (h : OnlyLogged logFile s t) (h' : OnlyLogged logFile t u) :
    OnlyLogged logFile s u :=
  ⟨h'.stdout_eq.trans h.stdout_eq,
    fun path hpath => (h'.get?_eq path hpath).trans (h.get?_eq path hpath)⟩

/-- **Step.**  One entry. -/
theorem onlyLogged_log (l : Log) (s : Session) (entry : Journal.Entry) :
    OnlyLogged l.file s (s.log l entry) := by
  rw [log]
  split
  · exact .refl _ s
  · refine ⟨rfl, fun path hpath => ?_⟩
    dsimp only
    split
    · rename_i logPath hfile
      exact Files.get?_extend_of_ne _ (fun heq => hpath (hfile.trans (congrArg some heq))) _
    · rfl

/-- **Run.**  All entries of a journal. -/
theorem onlyLogged_logAll (l : Log) (s : Session) (entries : List Journal.Entry) :
    OnlyLogged l.file s (s.logAll l entries) := by
  induction entries generalizing s with
  | nil => exact .refl _ s
  | cons entry entries ih => exact (onlyLogged_log l s entry).trans (ih (s.log l entry))

/-- An entry with a name in it goes to the log file or to none. -/
theorem onlyLogged_log_naming (l : Log) (name : Signs) (s : Session) (entry : Journal.Entry) :
    OnlyLogged l.file s (s.log (l.naming name) entry) := by
  have hlogged := onlyLogged_log (l.naming name) s entry
  refine ⟨hlogged.stdout_eq, fun path hpath => hlogged.get?_eq path ?_⟩
  rw [Log.naming]
  dsimp only
  split
  · exact hpath
  · nofun

end Session

/-- So far nothing but the log has changed, and a run that ends here has failed. -/
def SoFarLogged {α : Type} (logFile : Option Signs) (s : Session) (session : α → Session) :
    Except Ending α → Prop
  | .error ending => ending.status ≠ .ok 0 ∧ s.OnlyLogged logFile ending.session
  | .ok a => s.OnlyLogged logFile (session a)

/-! ### Up to the command -/

/-- The path of the log file, if the run opens one. -/
def World.logPath? (w : World) : Option Signs :=
  match loadSettings w with
  | .error _ => none
  | .ok c =>
    match openLog w.files c.logFile with
    | .error _ => none
    | .ok (_, logFile) => logFile

/-- Opening the log touches no other file. -/
theorem onlyLogged_openLog {files opened : Files} {name : Option String} {logFile : Option Signs}
    (h : openLog files name = .ok (opened, logFile)) (stdout stderr : Text) :
    Session.OnlyLogged logFile ⟨files, stdout, stderr⟩ ⟨opened, stdout, stderr⟩ := by
  rw [openLog] at h
  split at h
  · cases h
    exact .refl _ _
  · split at h
    · cases h
    · cases h
      exact ⟨rfl, fun other hother =>
        Files.get?_extend_of_ne files (fun heq => hother (congrArg some heq)) []⟩

/-- **Up to the command nothing is written but the log.** -/
theorem soFarLogged_prepare (w : World) :
    SoFarLogged w.logPath? w.start (fun r => r.2.2) (prepare w) := by
  rw [prepare, World.logPath?]
  cases loadSettings w with
  | error failure => exact ⟨nofun, .refl _ _⟩
  | ok c =>
    dsimp only
    cases hopen : openLog w.files c.logFile with
    | error failure => exact ⟨nofun, .refl _ _⟩
    | ok opened =>
      have hlogged := onlyLogged_openLog hopen [] []
      dsimp only
      cases Log.rankOf c.logLevel with
      | error failure => exact ⟨nofun, hlogged⟩
      | ok rank => exact hlogged

/-- A command has the settings of the run, and its log goes to the log file of the run. -/
theorem of_prepare {w : World} {c : Configuration} {l : Log} {s : Session}
    (h : prepare w = .ok (c, l, s)) : loadSettings w = .ok c ∧ l.file = w.logPath? := by
  rw [prepare] at h
  split at h
  · cases h
  · rename_i hsettings
    split at h
    · cases h
    · rename_i hopen
      split at h
      · cases h
      · cases h
        refine ⟨hsettings, ?_⟩
        rw [World.logPath?, hsettings]
        dsimp only
        rw [hopen]

/-! ### Up to the report -/

/-- An audit that fails has ended the run before anything but the log was written. -/
theorem soFarLogged_auditSource (w : World) (c : Configuration) (l : Log) (s : Session)
    (choice : SourceChoice) (words : String) :
    SoFarLogged l.file s (fun r => r.2.2) (auditSource w c l s choice words) := by
  rw [auditSource]
  split
  · -- the source cannot be read
    exact ⟨nofun, .refl _ _⟩
  · -- there is no such sample
    exact ⟨nofun, s.onlyLogged_log l _⟩
  · split
    · -- the settings make up no auditor
      exact ⟨nofun, .refl _ _⟩
    · dsimp only
      split
      · exact s.onlyLogged_logAll l _
      · -- the audit fails, and its journal is in the log
        split
        · exact ⟨nofun, (s.onlyLogged_logAll l _).trans (Session.onlyLogged_log l _ _)⟩
        · exact ⟨nofun, s.onlyLogged_logAll l _⟩

/-- **Up to the report nothing is written but the log.** -/
theorem soFarLogged_compose (w : World) (c : Configuration) (l : Log) (s : Session)
    (choice : SourceChoice) (format : Option String) :
    SoFarLogged l.file s Prod.snd (compose w c l s choice format) := by
  have haudited := soFarLogged_auditSource w c l s choice "Audit failed: "
  rw [compose]
  cases haudit : auditSource w c l s choice "Audit failed: " with
  | error ending =>
    rw [haudit] at haudited
    exact haudited
  | ok audited =>
    rw [haudit] at haudited
    dsimp only
    split
    · exact ⟨nofun, haudited⟩
    · exact haudited

/-- A source has a name that is text, unless it is that of a file. -/
theorem isText_or_eq_of_readSource {w : World} {s : Session} {choice : SourceChoice}
    {source : NamedSource} (h : readSource w s choice = .ok (.ok source)) :
    source.name.isText = true ∨ choice.origin = .file source.name := by
  rw [readSource] at h
  split at h
  · -- the input
    rw [World.inputSource] at h
    cases hinput : w.input.decode with
    | error failure =>
      rw [hinput] at h
      cases h
    | ok text =>
      rw [hinput] at h
      cases h
      exact .inl (Signs.isText_ofString _)
  · split at h
    · cases h
      exact .inl (Signs.isText_ofString _)
    · cases h
  · rename_i name horigin
    split at h
    · cases h
      exact .inr horigin
    · cases h

theorem readSource_of_auditSource {w : World} {c : Configuration} {l : Log} {s t : Session}
    {choice : SourceChoice} {words : String} {source : NamedSource} {assessment : Assessment}
    (h : auditSource w c l s choice words = .ok (source, assessment, t)) :
    readSource w s choice = .ok (.ok source) := by
  rw [auditSource] at h
  split at h
  · cases h
  · cases h
  · rename_i read hread
    split at h
    · cases h
    · dsimp only at h
      split at h
      · cases h
        exact hread
      · split at h <;> cases h

/-- **A report that is not text** is a plain or an HTML report about a file with a name that is not
text. -/
theorem compose_not_text {w : World} {c : Configuration} {l : Log} {s t : Session}
    {choice : SourceChoice} {format : Option String} {report : Signs}
    (h : compose w c l s choice format = .ok (report, t)) (hreport : report.isText = false) :
    ((given? format).getD c.defaultReportFormat = "text" ∨
      (given? format).getD c.defaultReportFormat = "html") ∧
    ∃ name, choice.origin = .file name ∧ name.isText = false := by
  rw [compose] at h
  split at h
  · cases h
  · rename_i source assessment u haudit
    split at h
    · cases h
    · rename_i hgenerate
      cases h
      obtain ⟨hformat, hname⟩ := Report.generate_not_text hgenerate hreport
      rcases isText_or_eq_of_readSource (readSource_of_auditSource haudit) with htext | horigin
      · rw [htext] at hname
        cases hname
      · exact ⟨hformat, source.name, horigin, hname⟩

/-! ### The end -/

section Delivery

variable {w : World} {l : Log} {output : Option Signs} {name report : Signs} {s : Session}

/-- A text is printed with a line end, if the console has its characters. -/
theorem printed_of_all {text : Text} (h : text.all w.console.holds = true) :
    printed w s (.ofText text)
      = { status := .ok 0, session := { s with stdout := s.stdout ++ text ++ ['\n'] } } := by
  have hout : w.console.characters (.ofText text) = .ok text :=
    Encoding.characters_eq_ok_iff.2 ⟨rfl, h⟩
  rw [printed, Session.print, hout]
  rfl

/-- Otherwise nothing is. -/
theorem printed_of_error {failure : Failure} (h : w.console.characters report = .error failure) :
    printed w s report = { status := .error failure, session := s } := by
  rw [printed, Session.print, h]
  rfl

theorem deliver_of_error {files : Files} {failure : Failure} (hname : Signs.given? output = some name)
    (h : s.files.write name report = (files, .error failure)) :
    deliver w l s output report = { status := .error failure, session := { s with files } } := by
  simp only [deliver, hname, Session.write, h]

theorem deliver_of_ok {files : Files} (hname : Signs.given? output = some name)
    (h : s.files.write name report = (files, .ok ())) :
    deliver w l s output report
      = { status := .ok 0
          session := Session.report { s with files } (l.naming name) .info
            ("Audit report written to " ++ name.shown) } := by
  simp only [deliver, hname, Session.write, h]

/-- **A delivery that fails** prints nothing and leaves all files as they are, or it empties the file
for a report that is not text. -/
theorem deliver_failed (h : (deliver w l s output report).status ≠ .ok 0) :
    (deliver w l s output report).session.stdout = s.stdout ∧
    ((deliver w l s output report).session.files = s.files ∨
      report.isText = false ∧ ∃ name, Signs.given? output = some name ∧
        (deliver w l s output report).session.files
          = s.files.put (Files.pathOf (Files.spell name)) [] ∧
        ∃ code start stop, (deliver w l s output report).status
          = .error (.unencodable "utf-8" code start stop "surrogates not allowed")) := by
  cases hname : Signs.given? output with
  | none =>
    have hprinted : deliver w l s output report = printed w s report := by rw [deliver, hname]
    rw [hprinted] at h ⊢
    cases hout : w.console.characters report with
    | error failure =>
      rw [printed_of_error hout]
      exact ⟨rfl, .inl rfl⟩
    | ok text =>
      obtain ⟨rfl, hall⟩ := Encoding.characters_eq_ok_iff.1 hout
      rw [printed_of_all hall] at h
      exact absurd rfl h
  | some name =>
    rcases s.files.write_cases name report with
      ⟨failure, hwrite⟩ | ⟨htext, code, start, stop, hwrite⟩ | ⟨text, rfl, hwrite⟩
    · rw [deliver_of_error hname hwrite]
      exact ⟨rfl, .inl rfl⟩
    · rw [deliver_of_error hname hwrite]
      exact ⟨rfl, .inr ⟨htext, name, rfl, rfl, code, start, stop, rfl⟩⟩
    · rw [deliver_of_ok hname hwrite] at h
      exact absurd rfl h

/-- **A delivery into a file that succeeds** prints nothing, and the report is a text that the file
holds. -/
theorem deliver_done (hname : Signs.given? output = some name)
    (hlog : l.file ≠ some (Files.pathOf (Files.spell name)))
    (h : (deliver w l s output report).status = .ok 0) :
    ∃ text, report = .ofText text ∧ (deliver w l s output report).session.stdout = s.stdout ∧
      (deliver w l s output report).session.files.get? (Files.pathOf (Files.spell name))
        = some (Octets.ofText text) := by
  rcases s.files.write_cases name report with
    ⟨failure, hwrite⟩ | ⟨-, code, start, stop, hwrite⟩ | ⟨text, rfl, hwrite⟩
  · rw [deliver_of_error hname hwrite] at h
    cases h
  · rw [deliver_of_error hname hwrite] at h
    cases h
  · rw [deliver_of_ok hname hwrite]
    -- the entry about the file goes to the log, which is another one
    have hlogged := Session.onlyLogged_log_naming l name
      { s with files := s.files.put (Files.pathOf (Files.spell name)) (Octets.ofText text) }
      ⟨.commandLine, .info, "Audit report written to " ++ name.shown⟩
    refine ⟨text, rfl, hlogged.stdout_eq, (hlogged.get?_eq _ hlog).trans ?_⟩
    rw [Files.get?_put, if_pos rfl]

end Delivery

/-! ### The run -/

/-- The same world without the flag for the file that receives the report. -/
def World.withoutOutput (w : World) : World :=
  { w with arguments := CommandLine.withoutOutput w.arguments }

/-- The path of the file that receives the report, if the arguments name one. -/
def outputPath? (args : List Signs) : Option Signs :=
  match Command.parse args with
  | .ok (some (.analyze _ output _)) =>
    (Signs.given? output).map fun name => Files.pathOf (Files.spell name)
  | _ => none

/-- The name of the file with the source, if the arguments name one. -/
def sourceFile? (args : List Signs) : Option Signs :=
  match Command.parse args with
  | .ok (some (.analyze choice _ _)) =>
    match choice.origin with
    | .file name => some name
    | _ => none
  | _ => none

/-- The name of the format of the report, if the arguments make up the command and the settings can be
loaded. -/
def World.formatName? (w : World) : Option String :=
  match Command.parse w.arguments, loadSettings w with
  | .ok (some (.analyze _ _ format)), .ok c => some ((given? format).getD c.defaultReportFormat)
  | _, _ => none

/-- A run that empties the file for its report and then fails, because the report is not text: it is
a plain or an HTML report, and bears the name of the source, which an argument gives and which is not
text. -/
structure World.Spoils (w : World) (path : Signs) : Prop where
  output : outputPath? w.arguments = some path
  get? : (run w).session.files.get? path = some []
  format : w.formatName? = some "text" ∨ w.formatName? = some "html"
  source : ∃ name, sourceFile? w.arguments = some name ∧ name.isText = false
  argument : ∃ arg ∈ w.arguments, arg.isText = false
  status : ∃ code start stop, (run w).status
    = .error (.unencodable "utf-8" code start stop "surrogates not allowed")

/-- However the settings come about, the arguments have no part in them. -/
theorem prepare_withoutOutput (w : World) : prepare w.withoutOutput = prepare w := rfl

theorem file_of_origin {choice : SourceChoice} {name : Signs} (h : choice.origin = .file name) :
    choice.file = some name := by
  rw [SourceChoice.origin] at h
  split at h
  · cases h
  · rename_i given _ hgiven
    split at h
    · cases h
    · cases h
      cases hfile : choice.file with
      | none =>
        rw [hfile] at hgiven
        cases hgiven
      | some file =>
        rw [hfile, Signs.given?] at hgiven
        split at hgiven
        · cases hgiven
        · exact hgiven
  · cases h

/-- **What a run can do.**  It fails before there is a report, and then nothing is written but the log.
Or there is a report to deliver, and nothing was written but the log before that; without the flag for
its output the run delivers the same report. -/
theorem run_cases {w : World} {choice : SourceChoice} {output : Option Signs}
    {format : Option String}
    (h : Command.parse w.arguments = .ok (some (.analyze choice output format))) :
    ((run w).status ≠ .ok 0 ∧ w.start.OnlyLogged w.logPath? (run w).session) ∨
    ∃ (l : Log) (s : Session) (report : Signs),
      l.file = w.logPath? ∧ w.start.OnlyLogged w.logPath? s ∧
      (report.isText = false → (w.formatName? = some "text" ∨ w.formatName? = some "html") ∧
        ∃ name, choice.origin = .file name ∧ name.isText = false) ∧
      run w = deliver w l s output report ∧
      run w.withoutOutput = deliver w l s none report := by
  have hstart := soFarLogged_prepare w
  cases hprepare : prepare w with
  | error ending =>
    have hrun : run w = ending := by simp only [run, h, hprepare]
    rw [hprepare] at hstart
    rw [hrun]
    exact .inl hstart
  | ok prepared =>
    obtain ⟨c, l, s⟩ := prepared
    have hrun : run w = analyze w c l s choice output format := by
      simp only [run, h, hprepare, perform]
    have hplain : run w.withoutOutput = analyze w c l s choice none format := by
      have hparse : Command.parse w.withoutOutput.arguments
          = .ok (some (.analyze choice none format)) := parse_withoutOutput h
      simp only [run, hparse, prepare_withoutOutput, hprepare, perform]
      rfl
    obtain ⟨hsettings, hfile⟩ := of_prepare hprepare
    have hformat : w.formatName? = some ((given? format).getD c.defaultReportFormat) := by
      simp only [World.formatName?, h, hsettings]
    have hcomposed := soFarLogged_compose w c l s choice format
    rw [hprepare] at hstart
    rw [hfile] at hcomposed
    rw [hrun, hplain]
    cases hcompose : compose w c l s choice format with
    | error ending =>
      rw [hcompose] at hcomposed
      have hend : analyze w c l s choice output format = ending := by simp only [analyze, hcompose]
      rw [hend]
      exact .inl ⟨hcomposed.1, Session.OnlyLogged.trans hstart hcomposed.2⟩
    | ok composed =>
      obtain ⟨report, t⟩ := composed
      rw [hcompose] at hcomposed
      refine .inr ⟨l, t, report, hfile, Session.OnlyLogged.trans hstart hcomposed, fun hreport => ?_,
        ?_, ?_⟩
      · rw [hformat, Option.some_inj, Option.some_inj]
        exact compose_not_text hcompose hreport
      · simp only [analyze, hcompose]
      · simp only [analyze, hcompose]

/-- A run that fails, once its arguments make up a command. -/
theorem kept_or_spoils {w : World} {choice : SourceChoice} {output : Option Signs}
    {format : Option String}
    (h : Command.parse w.arguments = .ok (some (.analyze choice output format)))
    (hfailed : (run w).status ≠ .ok 0) :
    (run w).session.stdout = [] ∧ ∀ path, w.logPath? ≠ some path →
      (run w).session.files.get? path = w.files.get? path ∨ w.Spoils path := by
  rcases run_cases h with ⟨-, hlogged⟩ | ⟨l, s, report, -, hlogged, hsource, hrun, -⟩
  · exact ⟨hlogged.stdout_eq, fun path hpath => .inl (hlogged.get?_eq path hpath)⟩
  · rw [hrun] at hfailed
    obtain ⟨hsilent, hfiles⟩ := deliver_failed hfailed
    rw [← hrun] at hsilent hfiles
    refine ⟨hsilent.trans hlogged.stdout_eq, fun path hpath => ?_⟩
    rcases hfiles with hkept | ⟨hreport, name, hname, hput, hstatus⟩
    · rw [hkept]
      exact .inl (hlogged.get?_eq path hpath)
    · rw [hput, Files.get?_put]
      split
      · rename_i hwritten
        obtain ⟨hformat, file, horigin, hfile⟩ := hsource hreport
        right
        constructor
        · rw [outputPath?, h]
          dsimp only
          rw [hname, ← hwritten]
          rfl
        · rw [hput, Files.get?_put, if_pos hwritten]
        · exact hformat
        · refine ⟨file, ?_, hfile⟩
          rw [sourceFile?, h]
          dsimp only
          rw [horigin]
        · exact exists_arg_of_file h (file_of_origin horigin) hfile
        · exact hstatus
      · exact .inl (hlogged.get?_eq path hpath)

/-- A run that succeeds with a file for its report, once its arguments make up a command. -/
theorem exists_delivered {w : World} {choice : SourceChoice} {output : Option Signs}
    {format : Option String} {name : Signs}
    (h : Command.parse w.arguments = .ok (some (.analyze choice output format)))
    (hdone : (run w).status = .ok 0) (hname : Signs.given? output = some name)
    (hlog : w.logPath? ≠ some (Files.pathOf (Files.spell name))) :
    ∃ report, (run w).session.stdout = [] ∧
      (run w).session.files.get? (Files.pathOf (Files.spell name)) = some (Octets.ofText report) ∧
      ∃ s : Session, s.stdout = [] ∧ run w.withoutOutput = printed w s (.ofText report) := by
  rcases run_cases h with ⟨hfailed, -⟩ | ⟨l, s, report, hfile, hlogged, -, hrun, hplain⟩
  · exact absurd hdone hfailed
  · rw [hrun] at hdone
    rw [← hfile] at hlog
    obtain ⟨text, rfl, hsilent, hwritten⟩ := deliver_done hname hlog hdone
    rw [← hrun] at hsilent hwritten
    exact ⟨text, hsilent.trans hlogged.stdout_eq, hwritten, s, hlogged.stdout_eq, hplain⟩

/-- A run with a log file, on a contract that comes as input, over a report from before. -/
def reportingWorld : World where
  arguments :=
    ["analyze", "--outp=notes/../b.txt", "--format", "text", "--output", "a.txt"].map .ofString
  input := Octets.ofText "contract C \x7b \x7d".toList
  environment := [("LOG_FILE", "run.log"), ("LOG_LEVEL", "debug")]
  files := [(.ofString "a.txt", Octets.ofText "before".toList),
    (.ofString "b.txt", Octets.ofText "kept".toList)]
  console := .utf8
  replies _ := .noChoices
  date := "2000-01-02"
  time := "TIME"

/-- The same with an unknown format in the settings. -/
def failingWorld : World :=
  { reportingWorld with
    arguments := ["analyze", "--output", "a.txt"].map .ofString
    environment := [("LOG_FILE", "run.log"), ("DEFAULT_REPORT_FORMAT", "pdf")] }

/-- A name that is not text. -/
def strangeName : Signs :=
  Signs.ofString "bad" ++ Sign.octet ⟨127, by decide⟩ :: Signs.ofString ".sol"

/-- A run on a file with such a name, over a report from before. -/
def spoilingWorld : World :=
  { reportingWorld with
    arguments := [.ofString "analyze", .ofString "--file", strangeName, .ofString "--output",
      .ofString "out.txt"]
    environment := []
    files := [(strangeName, Octets.ofText "contract C \x7b\x7d".toList),
      (.ofString "out.txt", Octets.ofText "before".toList)] }

end CommandLine

end ContractAudit
