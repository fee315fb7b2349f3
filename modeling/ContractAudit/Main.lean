import ContractAudit.CommandLine.Run
import Std.Time.DateTime
import Std.Time.Format

/-!
# The program

The outer layer: it looks at the arguments, the environment, the clock, the input and the files that
the run may touch, has the run worked out, and then writes and prints what came of it.  There is no
client for a language model, so a question to one fails, and a file whose name is not text is out of
reach.
-/

namespace ContractAudit

open ContractAudit.Text ContractAudit.CommandLine

/-- What the system keeps about the running program under a name, item by item: each item is ended by
the octet zero. -/
def systemItems (name : String) : IO (List Octets) := do
  let contents ← IO.FS.readBinFile ("/proc/self/" ++ name)
  return (splitWhere (· == 0) contents.toList).dropLast

/-- The arguments, of which there are `count`. -/
def readArguments (count : Nat) : IO (List Signs) := do
  let items ← systemItems "cmdline"
  return (items.drop (items.length - count)).map Octets.signs

/-- A variable of the environment, if it is text. -/
def readVariable (item : Octets) : Option (String × String) :=
  (Octets.signs item).text?.map fun text =>
    (String.ofList (text.takeWhile (· != '=')), String.ofList ((text.dropWhile (· != '=')).drop 1))

/-- The variables of the environment. -/
def readEnvironment : IO (List (String × String)) := do
  return (← systemItems "environ").filterMap readVariable

/-- The files with what lies on the way to a name. -/
def lookAt (files : Files) (name : Signs) : IO Files := do
  let steps := Files.spell name
  let mut files := files
  for n in List.range steps.length do
    let path := Files.pathOf (steps.take (n + 1))
    if let some text := path.text? then
      if !text.isEmpty then
        files ← try
          let contents ← IO.FS.readBinFile (String.ofList text)
          pure (files.put path contents.toList)
        catch
          | .noFileOrDirectory .. => pure files
          | _ => pure (files.put (path ++ [.char '/']) [])
  return files

/-- The names of the files that a command may touch, apart from the log file. -/
def touchedNames : Option Command → List Signs
  | some command => environmentFile :: command.fileNames
  | none => [environmentFile]

/-- The input, if the command reads it. -/
def readInput : Option Command → IO Octets
  | some command => do
    if command.readsInput then return (← IO.FS.readBinFile "/dev/stdin").toList
    else return []
  | none => return []

/-- What the program can see. -/
def look (count : Nat) : IO World := do
  let now ← Std.Time.PlainDateTime.now
  let arguments ← readArguments count
  let command := (Command.parse arguments).toOption.join
  let environment ← readEnvironment
  let mut files : Files := []
  for name in touchedNames command do
    files ← lookAt files name
  let world : World :=
    { arguments, environment, files
      input := ← readInput command
      console := .utf8
      replies := fun _ => .failed "Connection error."
      date := now.format "uuuu-MM-dd HH:mm:ss"
      time := now.format "uuuu-MM-dd HH:mm:ss,SSS" }
  match loadSettings world with
  | .ok { logFile := some name, .. } =>
    return { world with files := ← lookAt files (.ofString name) }
  | _ => return world

end ContractAudit

open ContractAudit ContractAudit.CommandLine

/-- Run the program. -/
def main (arguments : List String) : IO UInt32 := do
  let world ← look arguments.length
  let ending := run world
  for (path, contents) in ending.changedFiles world do
    if let some text := path.text? then
      IO.FS.writeBinFile (String.ofList text) ⟨contents.toArray⟩
  IO.print (String.ofList ending.session.stdout)
  IO.eprint (String.ofList ending.session.stderr)
  match ending.status with
  | .ok code => return code.toUInt32
  | .error failure =>
    IO.eprintln failure.sentence
    return 1
