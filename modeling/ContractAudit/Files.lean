import ContractAudit.Text.Utf8
import ContractAudit.Text.Lines

/-!
# Files

The files that a run of the program can see, by their paths from the directory in which it runs.  A
directory is there as long as something lies below it; an empty one is a path with a slash at its
end.

* `Files` -- paths and contents, in the order in which they were added;
* `Files.get?`, `Files.put`, `Files.extend` -- access by path;
* `Files.spell` -- the steps that a name spells;
* `Files.resolve` -- the same, if the name can be one and the way is there;
* `Files.readText` -- the text of a file;
* `Files.target` -- the path at which a file can be written;
* `Files.write` -- writing a file, which empties it before anything else.
-/

namespace ContractAudit

open ContractAudit.Text

/-- Paths and contents. -/
abbrev Files := List (Signs × Octets)

namespace Files

/-! ### Access by path -/

/-- The contents at a path. -/
def get? (files : Files) (path : Signs) : Option Octets :=
  (files.find? fun entry => entry.1 == path).map Prod.snd

/-- The files with the given contents at a path. -/
def put : Files → Signs → Octets → Files
  | [], path, contents => [(path, contents)]
  | (name, old) :: rest, path, contents =>
    if name = path then (path, contents) :: rest else (name, old) :: put rest path contents

/-- The files with something added at the end of the one at a path. -/
def extend (files : Files) (path : Signs) (more : Octets) : Files :=
  files.put path ((files.get? path).getD [] ++ more)

/-! ### Names -/

/-- The step that stays where it is. -/
def sameStep : Signs := [.char '.']

/-- The step that leads back. -/
def parentStep : Signs := [.char '.', .char '.']

/-- The steps of a path as one name. -/
def pathOf (steps : List Signs) : Signs :=
  [Sign.char '/'].intercalate steps

/-- Whether a file lies at the end of the steps. -/
def isFile (files : Files) (steps : List Signs) : Bool :=
  files.any fun entry => entry.1 == pathOf steps

/-- Whether a directory lies at the end of the steps.  The directory of the run, the ones above it
and the root are always there. -/
def isDirectory (files : Files) (steps : List Signs) : Bool :=
  steps.all (· == parentStep) || steps == [[]]
    || files.any fun entry => (pathOf steps ++ [Sign.char '/']).isPrefixOf entry.1

/-- One more step from a place. -/
def advance (place : List Signs) (step : Signs) : List Signs :=
  if step = [] ∨ step = sameStep then place
  else if step = parentStep then
    if place = [[]] then place
    else if place.all (· == parentStep) then place ++ [step]
    else place.dropLast
  else place ++ [step]

/-- The place where a name begins: the root or the directory of the run. -/
def origin (name : Signs) : List Signs :=
  if name.head? = some (.char '/') then [[]] else []

/-- The pieces of a name between its slashes. -/
def pieces (name : Signs) : List Signs :=
  splitWhere (· == .char '/') name

/-- The steps that a name spells. -/
def spell (name : Signs) : List Signs :=
  (pieces name).foldl advance (origin name)

/-- The length of a name in octets. -/
def size (name : Signs) : Nat :=
  name.foldl (fun n sign => n + sign.size) 0

/-- The greatest length of a step, in octets. -/
def stepLimit : Nat := 255

/-- The greatest length of a name, in octets. -/
def nameLimit : Nat := 4095

/-- Walk on from a place that has to be a directory; `name` is what the walk is for. -/
def walk (files : Files) (name : Signs) :
    List Signs → List Signs → Except Failure (List Signs)
  | place, [] => .ok place
  | place, step :: rest =>
    if files.isFile place then .error (.notDirectory name)
    else if !files.isDirectory place then .error (.noSuchFile name)
    else if stepLimit < size step then .error (.nameTooLong name)
    else files.walk name (advance place step) rest

/-- The pieces of a name, if it can be the name of a file. -/
def piecesOf (name : Signs) : Except Failure (List Signs) :=
  if name.contains (.char '\x00') then .error .nulInPath
  else if nameLimit < size name then .error (.nameTooLong name)
  else .ok (pieces name)

/-- The steps that a name spells, if all directories on the way are there. -/
def resolve (files : Files) (name : Signs) : Except Failure (List Signs) := do
  let steps ← piecesOf name
  files.walk name (origin name) steps

/-- The text of a file, all line ends being line feeds. -/
def readText (files : Files) (name : Signs) : Except Failure Text := do
  let steps ← files.resolve name
  if files.isDirectory steps then throw (.isDirectory name)
  match files.get? (pathOf steps) with
  | none => throw (.noSuchFile name)
  | some octets => return withLineFeeds (← octets.decode)

/-- The steps in front of the last one, when that one is to be a directory because a slash follows
it. -/
def beforeSlash? (steps : List Signs) : Option (List Signs) :=
  match steps.reverse with
  | [] :: rest =>
    match rest.dropWhile List.isEmpty with
    | last :: rest => if last = sameStep ∨ last = parentStep then none else some rest.reverse
    | [] => none
  | _ => none

/-- The path at which a file of the given name can be written.  Nothing can be written under a name
with a slash at its end, but the way to its last step has to be there all the same. -/
def target (files : Files) (name : Signs) : Except Failure Signs := do
  match beforeSlash? (← piecesOf name) with
  | some way =>
    let _ ← files.walk name (origin name) (way ++ [sameStep])
    throw (.isDirectory name)
  | none =>
    let steps ← files.resolve name
    if files.isDirectory steps then throw (.isDirectory name)
    return pathOf steps

/-! ### Writing -/

/-- The files once a report is written under the name, and whether that succeeded.  The file is
emptied first, so that nothing is left in it of a report that cannot be encoded, nor of what was there
before. -/
def write (files : Files) (name report : Signs) : Files × Except Failure Unit :=
  match files.target name with
  | .error failure => (files, .error failure)
  | .ok path =>
    match Encoding.utf8.characters report with
    | .error failure => (files.put path [], .error failure)
    | .ok text => (files.put path (Octets.ofText text), .ok ())

end Files

end ContractAudit
