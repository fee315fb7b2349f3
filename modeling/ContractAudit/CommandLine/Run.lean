import ContractAudit.Assistant
import ContractAudit.Audit.SampleContract
import ContractAudit.CommandLine.Command
import ContractAudit.CommandLine.Log
import ContractAudit.Configuration.Basic
import ContractAudit.Report.Format

/-!
# Runs of the program

A run is a function of what the program can see: its arguments, its input, the environment, the
files, the console, the clock and the replies of the language model.  It ends with an exit code or
with a failure that nobody caught; what was printed and written until then remains.

* `World` -- what the program can see;
* `Ending` -- how a run ends, and what it leaves behind;
* `readSource` -- the source that a command is about;
* `compose`, `deliver`, `analyze` -- the report of an audit, where it goes, and the command for both;
* `listExamples`, `explain` -- the other commands;
* `prepare` -- the settings and the log, with which every command begins;
* `run` -- a run of the program.
-/

namespace ContractAudit.CommandLine

open ContractAudit.Text

/-- What the program can see. -/
structure World where
  arguments : List Signs
  input : Octets
  environment : List (String × String)
  files : Files
  /-- The encoding of the standard output and of the error output. -/
  console : Encoding
  /-- The replies of the language model, by the number of requests before. -/
  replies : Nat → Reply
  /-- The date that reports bear. -/
  date : String
  /-- The time that log lines bear. -/
  time : String

/-- The session at the start of a run. -/
def World.start (w : World) : Session :=
  ⟨w.files, [], []⟩

/-- How a run ends, and what it leaves behind. -/
structure Ending where
  /-- The exit code, or the failure that nobody caught. -/
  status : Except Failure Nat
  session : Session
  /-- The connection to the language model, if one was made. -/
  connection : Option Connection := none

/-! ### The source of a command -/

/-- A source and its name. -/
structure NamedSource where
  name : Signs
  text : Text

/-- The input as a source, all line ends being line feeds. -/
def World.inputSource (w : World) : Except Failure NamedSource := do
  let text ← w.input.decode
  return ⟨.ofString "<stdin>", withLineFeeds text⟩

/-- The sample contract of an id. -/
def findSample? (id : Signs) : Option SampleContract :=
  id.text?.bind fun text => SampleContract.find? (String.ofList text)

/-- The source that a command is about, or the id of a sample contract that there is not. -/
def readSource (w : World) (s : Session) (choice : SourceChoice) :
    Except Failure (Except Signs NamedSource) :=
  match choice.origin with
  | .input => w.inputSource.map .ok
  | .sample id =>
    match findSample? id with
    | some sample => .ok (.ok ⟨.ofString (sample.id ++ ".sol"), sample.code.toList⟩)
    | none => .ok (.error id)
  | .file name =>
    match s.files.readText name with
    | .ok text => .ok (.ok ⟨name, text⟩)
    | .error failure => .error failure

/-- The settings with the table of thresholds that the flags name. -/
def chooseThresholds (c : Configuration) (choice : SourceChoice) : Configuration :=
  match given? choice.thresholds with
  | some table => { c with riskThresholds := table }
  | none => c

/-- An audit as part of a command: the source with its assessment, or the end of the run.  Failures
of the audit itself are logged after the given words. -/
def auditSource (w : World) (c : Configuration) (l : Log) (s : Session) (choice : SourceChoice)
    (words : String) : Except Ending (NamedSource × Assessment × Session) :=
  match readSource w s choice with
  | .error failure => .error { status := .error failure, session := s }
  | .ok (.error id) =>
    .error { status := .ok 1, session := s.report l .error ("Unknown example " ++ quotedName id) }
  | .ok (.ok source) =>
    match (chooseThresholds c choice).auditor with
    | .error failure => .error { status := .error failure, session := s }
    | .ok auditor =>
      let work := match choice.mode with
        | some mode => auditor.run (some source.text) mode
        | none => ⟨[], .error .unnamedMode⟩
      let s := s.logAll l work.entries
      match work.outcome with
      | .ok assessment => .ok (source, assessment, s)
      | .error failure =>
        if failure.isAuditFailure then
          .error { status := .ok 1, session := s.report l .error (words ++ failure.message) }
        else .error { status := .error failure, session := s }

/-! ### Commands -/

/-- The end of a run that prints a text. -/
def printed (w : World) (s : Session) (text : Signs) : Ending :=
  match s.print w.console text with
  | .error failure => { status := .error failure, session := s }
  | .ok s => { status := .ok 0, session := s }

/-- The report of an audit and the session in which it is delivered, or the end of the run. -/
def compose (w : World) (c : Configuration) (l : Log) (s : Session) (choice : SourceChoice)
    (format : Option String) : Except Ending (Signs × Session) :=
  match auditSource w c l s choice "Audit failed: " with
  | .error ending => .error ending
  | .ok (source, assessment, s) =>
    match Report.generate assessment ((given? format).getD c.defaultReportFormat) source.name w.date
    with
    | .error failure => .error { status := .error failure, session := s }
    | .ok report => .ok (report, s)

/-- The end of a run that prints a report, or writes it to the file of the given name. -/
def deliver (w : World) (l : Log) (s : Session) (output : Option Signs) (report : Signs) : Ending :=
  match Signs.given? output with
  | none => printed w s report
  | some name =>
    match s.write name report with
    | (s, .error failure) => { status := .error failure, session := s }
    | (s, .ok ()) =>
      { status := .ok 0
        session := s.report (l.naming name) .info ("Audit report written to " ++ name.shown) }

/-- Audit a contract and print the report, or write it to a file. -/
def analyze (w : World) (c : Configuration) (l : Log) (s : Session) (choice : SourceChoice)
    (output : Option Signs) (format : Option String) : Ending :=
  match compose w c l s choice format with
  | .error ending => ending
  | .ok (report, s) => deliver w l s output report

/-- A text filled up with blanks to a width. -/
def padTo (width : Nat) (s : String) : String :=
  s ++ String.ofList (List.replicate (width - s.length) ' ')

/-- The line for a sample contract. -/
def sampleLine (c : SampleContract) : String :=
  padTo 20 c.id ++ " " ++ padTo 8 c.riskLevel ++ " " ++ c.name ++ " - " ++ c.description

/-- Print lines, as long as they can be printed. -/
def printLines (w : World) : Session → List String → Ending
  | s, [] => { status := .ok 0, session := s }
  | s, line :: rest =>
    match s.print w.console (.ofString line) with
    | .error failure => { status := .error failure, session := s }
    | .ok s => printLines w s rest

/-- List the sample contracts. -/
def listExamples (w : World) (s : Session) : Ending :=
  printLines w s (SampleContract.all.map sampleLine)

/-- Audit a contract and put a question about it to the assistant. -/
def explain (w : World) (c : Configuration) (l : Log) (s : Session) (choice : SourceChoice)
    (question : Option String) : Ending :=
  match auditSource w c l s choice "Explain failed: " with
  | .error ending => ending
  | .ok (source, assessment, s) =>
    let client := Client.choose false c.openaiApiKey c.apiBaseUrl
    let connection := client.bind Client.connection?
    let assistant : Assistant := ⟨assessment, String.ofList source.text, c.openaiModel, client⟩
    let consultation := Dialogue.start.consultMaybe assistant w.replies question
    let s := s.logAll l consultation.entries
    match consultation.answer with
    | .ok answer => { printed w s (.ofString answer) with connection }
    | .error failure =>
      if failure.isAuditFailure then
        { status := .ok 1
          session := s.report l .error ("Explain failed: " ++ failure.message)
          connection }
      else { status := .error failure, session := s, connection }

/-! ### Runs -/

/-- The path of the environment file. -/
def environmentFile : Signs := .ofString ".env"

/-- The settings of a run. -/
def loadSettings (w : World) : Except Failure Configuration :=
  match w.files.get? environmentFile with
  | none => Submission.require (Configuration.load { environment := w.environment })
  | some octets =>
    match octets.decode with
    | .error failure => .error failure
    | .ok text =>
      Submission.require
        (Configuration.load { environment := w.environment, file := some text })

/-- The files once the log file is open, and its path.  What the name spells counts, whether or not
the steps that it takes back are there. -/
def openLog (files : Files) (name : Option String) : Except Failure (Files × Option Signs) :=
  match given? name with
  | none => .ok (files, none)
  | some name =>
    match files.target (Files.pathOf (Files.spell (.ofString name))) with
    | .error failure => .error failure
    | .ok path => .ok (files.extend path [], some path)

/-- Carry out a command; without one, the help is printed. -/
def perform (w : World) (c : Configuration) (l : Log) (s : Session) : Option Command → Ending
  | some (.analyze choice output format) => analyze w c l s choice output format
  | some .examples => listExamples w s
  | some (.explain choice question) => explain w c l s choice question
  | none => { status := .ok 1, session := { s with stdout := programGrammar.help.toList } }

/-- The settings, the log and the session with which a command begins, or the end of the run.  The
log file is opened before the log level is looked at. -/
def prepare (w : World) : Except Ending (Configuration × Log × Session) :=
  match loadSettings w with
  | .error failure => .error { status := .error failure, session := w.start }
  | .ok c =>
    match openLog w.files c.logFile with
    | .error failure => .error { status := .error failure, session := w.start }
    | .ok (files, logFile) =>
      match Log.rankOf c.logLevel with
      | .error failure => .error { status := .error failure, session := { w.start with files } }
      | .ok rank => .ok (c, ⟨rank, logFile, w.time, w.console⟩, { w.start with files })

/-- A run of the program.  The arguments are looked at before the settings. -/
def run (w : World) : Ending :=
  match Command.parse w.arguments with
  | .error (.help text) => { status := .ok 0, session := { w.start with stdout := text.toList } }
  | .error (.refused text) =>
    { status := .ok 2, session := { w.start with stderr := w.console.display text } }
  | .ok command =>
    match prepare w with
    | .error ending => ending
    | .ok (c, l, s) => perform w c l s command

/-- The files that a run leaves behind and that were not there before, or not with these contents.
-/
def Ending.changedFiles (ending : Ending) (w : World) : Files :=
  ending.session.files.filter fun (path, contents) => w.files.get? path != some contents

end ContractAudit.CommandLine
