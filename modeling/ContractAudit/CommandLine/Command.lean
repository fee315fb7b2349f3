import ContractAudit.CommandLine.Grammar

/-!
# Commands

The program has three commands, each with its flags.

* `Command` -- a command with the choices that its flags make;
* `Command.parse` -- the command that the arguments of the program make up, if they name one;
* `analyzeGrammar`, `examplesGrammar`, `explainGrammar`, `programGrammar` -- what is taken where.
-/

namespace ContractAudit.CommandLine

open ContractAudit.Text

/-! ### Flags and help -/

/-- The flag for a file with the source. -/
def fileFlag : Flag where
  names := ["--file"]

/-- The flag for a sample contract as the source. -/
def exampleFlag : Flag where
  names := ["--example"]

/-- The flag for the meaning of the input. -/
def modeFlag : Flag where
  names := ["--mode"]
  choices := some ["source", "address"]

/-- The flag for the table of thresholds. -/
def thresholdsFlag : Flag where
  names := ["--thresholds"]
  choices := some ["standard", "strict"]

/-- The flag for the file that receives the report. -/
def outputFlag : Flag where
  names := ["--output"]

/-- The flag for the format of the report. -/
def formatFlag : Flag where
  names := ["--format"]
  choices := some ["text", "json", "sarif", "html"]

/-- The flag for the question to the assistant. -/
def questionFlag : Flag where
  names := ["--question"]

/-- What the help says about the flags for the source. -/
def sourceDetails : String :=
  "options:\n"
    ++ "  -h, --help            show this help message and exit\n"
    ++ "  --file FILE           Path to a Solidity file (\"-\" or omitted reads stdin)\n"
    ++ "  --example EXAMPLE     Id of a bundled example contract\n"
    ++ "  --mode \x7bsource,address\x7d\n"
    ++ "                        How the input should be interpreted\n"
    ++ "  --thresholds \x7bstandard,strict\x7d\n"
    ++ "                        Score-to-level threshold table\n"

/-- The command that audits a contract. -/
def analyzeGrammar : Grammar where
  program := "risk-scanner analyze"
  usage :=
    "usage: risk-scanner analyze [-h] [--file FILE | --example EXAMPLE]\n"
      ++ "                            [--mode \x7bsource,address\x7d]\n"
      ++ "                            [--thresholds \x7bstandard,strict\x7d] [--output OUTPUT]\n"
      ++ "                            [--format \x7btext,json,sarif,html\x7d]\n"
  details := sourceDetails
    ++ "  --output OUTPUT       Path to output file\n"
    ++ "  --format \x7btext,json,sarif,html\x7d\n"
    ++ "                        Output format\n"
  flags := [helpFlag, fileFlag, exampleFlag, modeFlag, thresholdsFlag, outputFlag, formatFlag]
  exclusive := [fileFlag.title, exampleFlag.title]

/-- The command that lists the sample contracts. -/
def examplesGrammar : Grammar where
  program := "risk-scanner examples"
  usage := "usage: risk-scanner examples [-h]\n"
  details := "options:\n  -h, --help  show this help message and exit\n"
  flags := [helpFlag]

/-- The command that answers a question about a contract. -/
def explainGrammar : Grammar where
  program := "risk-scanner explain"
  usage :=
    "usage: risk-scanner explain [-h] [--file FILE | --example EXAMPLE]\n"
      ++ "                            [--mode \x7bsource,address\x7d]\n"
      ++ "                            [--thresholds \x7bstandard,strict\x7d]\n"
      ++ "                            [--question QUESTION]\n"
  details := sourceDetails ++ "  --question QUESTION   Question for the copilot\n"
  flags := [helpFlag, fileFlag, exampleFlag, modeFlag, thresholdsFlag, questionFlag]
  exclusive := [fileFlag.title, exampleFlag.title]

/-- The program itself, in front of its commands. -/
def programGrammar : Grammar where
  program := "risk-scanner"
  usage := "usage: risk-scanner [-h] \x7banalyze,examples,explain\x7d ...\n"
  details :=
    "Solidity Risk Scanner\n\n"
      ++ "positional arguments:\n"
      ++ "  \x7banalyze,examples,explain\x7d\n"
      ++ "                        Command to run\n"
      ++ "    analyze             Audit a contract\n"
      ++ "    examples            List the bundled example contracts\n"
      ++ "    explain             Ask the audit copilot about a contract\n\n"
      ++ "options:\n"
      ++ "  -h, --help            show this help message and exit\n"
  flags := [helpFlag]

/-! ### Commands -/

/-- Where a source comes from and how it is audited, as the flags say. -/
structure SourceChoice where
  file : Option Signs
  sample : Option Signs
  /-- The name of an input mode, unless its flag was left without a value. -/
  mode : Option String
  /-- The name of a table of thresholds in place of the one of the settings. -/
  thresholds : Option String

/-- Where a source comes from. -/
inductive SourceOrigin where
  /-- The sample contract of an id. -/
  | sample (id : Signs)
  /-- The file of a name. -/
  | file (name : Signs)
  /-- The input of the program. -/
  | input

/-- Where the source comes from: a sample contract goes before a file, and a dash is the name of the
input. -/
def SourceChoice.origin (choice : SourceChoice) : SourceOrigin :=
  match Signs.given? choice.sample, Signs.given? choice.file with
  | some id, _ => .sample id
  | none, some name => if name = [.char '-'] then .input else .file name
  | none, none => .input

/-- A command with the choices that its flags make. -/
inductive Command where
  | analyze (source : SourceChoice) (output : Option Signs) (format : Option String)
  | examples
  | explain (source : SourceChoice) (question : Option String)

/-- The flags for the source. -/
def SourceChoice.ofGiven (given : Given) : SourceChoice where
  file := given.value? fileFlag.title
  sample := given.value? exampleFlag.title
  mode := (given.valueOr modeFlag.title "source").map Signs.shown
  thresholds := (given.value? thresholdsFlag.title).map Signs.shown

/-- The text of a question, with a replacement character for each octet. -/
def legible (question : Signs) : String :=
  String.ofList (question.map fun sign => sign.char?.getD '\uFFFD')

/-- The question that is put if there is no other. -/
def defaultQuestion : String := "What are the most serious issues?"

namespace Command

/-- The choice of a source, if the command has one. -/
def source? : Command → Option SourceChoice
  | analyze source _ _ => some source
  | examples => none
  | explain source _ => some source

/-- Whether the command reads the input. -/
def readsInput (command : Command) : Bool :=
  match command.source?.map SourceChoice.origin with
  | some .input => true
  | _ => false

/-- The names of the files that the command may read or write. -/
def fileNames (command : Command) : List Signs :=
  let read := match command.source?.map SourceChoice.origin with
    | some (.file name) => [name]
    | _ => []
  match command with
  | analyze _ (some name) _ => read ++ [name]
  | _ => read

/-- The names of the commands. -/
def names : List String := ["analyze", "examples", "explain"]

/-- What the flags make of the command that audits a contract. -/
def ofGiven (given : Given) : Command :=
  analyze (.ofGiven given) (given.value? outputFlag.title)
    ((given.value? formatFlag.title).map Signs.shown)

/-- The grammar of the command of a name, and what its flags make of it. -/
def find? (name : Signs) : Option (Grammar × (Given → Command)) :=
  if name = .ofString "analyze" then some (analyzeGrammar, ofGiven)
  else if name = .ofString "examples" then some (examplesGrammar, fun _ => examples)
  else if name = .ofString "explain" then
    some (explainGrammar, fun given =>
      explain (.ofGiven given) ((given.valueOr questionFlag.title defaultQuestion).map legible))
  else none

/-- The command of a name with its arguments, and what it leaves over. -/
def parseNamed (name : Signs) (args : List Signs) : Except Stop (Command × List Signs) :=
  match find? name with
  | none =>
    .error (programGrammar.refuse ("argument command: " ++ invalidChoice name names))
  | some (grammar, make) => do
    let given ← grammar.read args
    return (make given, given.leftOver)

/-- The command that the arguments make up, and what is left over.  What stands in front of the name
of the command and looks like a flag is left over too. -/
def parseFrom : List (Signs × Reading) → List Signs → Except Stop (Option Command × List Signs)
  | [], leftOver => .ok (none, leftOver)
  | (arg, .unknown) :: rest, leftOver => parseFrom rest (leftOver ++ [arg])
  | (_, .known flag name attached) :: _, _ =>
    .error (programGrammar.stopAtHelp flag name attached)
  | [(arg, .separator)], leftOver => .ok (none, leftOver ++ [arg])
  | (arg, _) :: rest, leftOver => do
    let (command, more) ← parseNamed arg (rest.map Prod.fst)
    return (some command, leftOver ++ more)

/-- The command that the arguments of the program make up, if they name one. -/
def parse (args : List Signs) : Except Stop (Option Command) := do
  let readings ← programGrammar.classifyAll args
  let (command, leftOver) ← parseFrom readings []
  if leftOver.isEmpty then return command
  else throw (programGrammar.refuse ("unrecognized arguments: "
    ++ " ".intercalate (leftOver.map Signs.shown)))

end Command

end ContractAudit.CommandLine
