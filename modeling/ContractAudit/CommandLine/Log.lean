import ContractAudit.Audit.Journal
import ContractAudit.Files
import ContractAudit.Text.LetterCase

/-!
# The log of a run

The entries of the journal that are important enough are shown as lines on the error output and, if
there is one, at the end of the log file.

* `Log` -- how important an entry has to be, and where the log file lies;
* `Log.rankOf` -- the importance that a name stands for;
* `Session` -- what a run has printed and written so far;
* `Session.log`, `Session.print`, `Session.write` -- its steps.

The error output shows escapes for what its encoding lacks.  The standard output shows nothing of a
text that it cannot show as a whole, and the log file nothing of a line that is not text.
-/

namespace ContractAudit.CommandLine

open ContractAudit.Text

/-- Which entries are shown, and where. -/
structure Log where
  /-- The least rank of an entry that is shown. -/
  rank : Nat
  /-- The path of the log file. -/
  file : Option Signs
  /-- The time that the lines bear. -/
  time : String
  /-- The encoding of the error output. -/
  console : Encoding

namespace Log

/-- The names of the ranks. -/
def ranks : List (String × Nat) :=
  [("CRITICAL", 50), ("FATAL", 50), ("ERROR", 40), ("WARNING", 30), ("WARN", 30), ("INFO", 20),
   ("DEBUG", 10), ("NOTSET", 0)]

/-- The rank that a name stands for, in any case of its letters.  Two names that are no ranks stand
for the format of the lines and for the table of such formats. -/
def rankOf (name : String) : Except Failure Nat :=
  let upper := String.ofList (uppercase name.toList)
  match ranks.find? fun entry => entry.1 == upper with
  | some (_, rank) => .ok rank
  | none =>
    if upper = "BASIC_FORMAT" then .error (.logFormatAsLevel "%(levelname)s:%(name)s:%(message)s")
    else if upper = "_STYLES" then .error .logStylesAsLevel
    else .error (.unknownLogLevel upper)

/-- The log for lines with a name in them. -/
def naming (l : Log) (name : Signs) : Log :=
  { l with file := if name.isText then l.file else none }

end Log

/-- What a run has printed and written so far. -/
structure Session where
  files : Files
  stdout : Text
  stderr : Text

namespace Session

/-- The session with one more entry. -/
def log (s : Session) (l : Log) (entry : Journal.Entry) : Session :=
  if entry.level.rank < l.rank then s
  else
    let line := entry.line l.time
    { s with
      stderr := s.stderr ++ l.console.display line
      files := match l.file with
        | some path => s.files.extend path (Octets.ofText line.toList)
        | none => s.files }

/-- The session with more entries. -/
def logAll (s : Session) (l : Log) (entries : List Journal.Entry) : Session :=
  entries.foldl (fun s entry => s.log l entry) s

/-- The session with one more entry of the command line itself. -/
def report (s : Session) (l : Log) (level : Journal.Level) (message : String) : Session :=
  s.log l ⟨.commandLine, level, message⟩

/-- The session with a text and a line end printed. -/
def print (s : Session) (console : Encoding) (text : Signs) : Except Failure Session := do
  let characters ← console.characters text
  return { s with stdout := s.stdout ++ characters ++ ['\n'] }

/-- The session once a report is written under the name, and whether that succeeded. -/
def write (s : Session) (name report : Signs) : Session × Except Failure Unit :=
  let (files, written) := s.files.write name report
  ({ s with files }, written)

end Session

end ContractAudit.CommandLine
