import ContractAudit.Text.Digit
import ContractAudit.Text.Quoted

/-!
# Arguments of a command

A command takes flags, most of them with a value, and no operands.  An argument need not be text, but
the names of flags are.  Every argument is first told apart by itself: a long flag may be shortened
as long as that is not ambiguous, its value may follow an equals sign, and after two dashes nothing is
a flag any more.  Then the arguments are taken from left to right; what the command does not know is
left over.

* `Flag`, `Grammar` -- what a command takes;
* `Reading`, `Grammar.classify` -- what an argument is, by itself;
* `Stop` -- why the arguments do not make up a command: help was asked for, or something is wrong;
* `Grammar.consume` -- the flags that are given, and what is left over.
-/

namespace ContractAudit.CommandLine

open ContractAudit.Text

/-! ### Grammars -/

/-- A flag. -/
structure Flag where
  names : List String
  /-- Whether the flag has a value; the only one without shows the help. -/
  valued : Bool := true
  /-- The values that the flag may have, if not any. -/
  choices : Option (List String) := none

/-- The names of a flag, as messages write them. -/
def Flag.title (flag : Flag) : String :=
  "/".intercalate flag.names

/-- The flag that shows the help. -/
def helpFlag : Flag where
  names := ["-h", "--help"]
  valued := false

/-- What a command takes. -/
structure Grammar where
  program : String
  usage : String
  /-- What the help says after the usage. -/
  details : String
  flags : List Flag
  /-- The titles of the flags of which at most one may be given. -/
  exclusive : List String := []

/-- Why the arguments do not make up a command. -/
inductive Stop where
  | help (text : String)
  | refused (text : String)

namespace Grammar

/-- The help of a command. -/
def help (g : Grammar) : String :=
  g.usage ++ "\n" ++ g.details

/-- The refusal of arguments, with a message. -/
def refuse (g : Grammar) (message : String) : Stop :=
  .refused (g.usage ++ g.program ++ ": error: " ++ message ++ "\n")

/-- The refusal of a flag, with a message. -/
def refuseFlag (g : Grammar) (flag : Flag) (message : String) : Stop :=
  g.refuse ("argument " ++ flag.title ++ ": " ++ message)

/-- All names of flags, each with its flag. -/
def flagNames (g : Grammar) : List (String × Flag) :=
  g.flags.flatMap fun flag => flag.names.map fun name => (name, flag)

/-- The name of a flag that an argument is, and the flag. -/
def find? (g : Grammar) (arg : Signs) : Option (String × Flag) :=
  g.flagNames.find? fun entry => Signs.ofString entry.1 == arg

end Grammar

/-- The value that is not among the choices, and the choices. -/
def invalidChoice (value : Signs) (choices : List String) : String :=
  "invalid choice: " ++ quotedName value ++ " (choose from " ++ ", ".intercalate (choices.map quoted)
    ++ ")"

/-! ### Single arguments -/

/-- What an argument is, by itself. -/
inductive Reading where
  | operand
  /-- The two dashes after which nothing is a flag. -/
  | separator
  /-- A flag, under one of its names, and what stands in the same argument after the name. -/
  | known (flag : Flag) (name : String) (attached : Option Signs)
  /-- Something like a flag that the command does not know. -/
  | unknown

/-- An argument up to its first equals sign, and what follows the sign. -/
def splitAtEquals (arg : Signs) : Signs × Option Signs :=
  (arg.takeWhile (· != .char '='), match arg.dropWhile (· != .char '=') with
    | [] => none
    | _ :: rest => some rest)

/-- Whether a text is a row of digits, perhaps with a point in front of the last of them. -/
def isPlainNumber (s : Text) : Bool :=
  match s.dropWhile isDigit with
  | [] => !s.isEmpty
  | '.' :: rest => !rest.isEmpty && rest.all isDigit
  | _ => false

/-- Whether an argument is a negative number; one line end after it does not count. -/
def isNegativeNumber (arg : Signs) : Bool :=
  match arg.text? with
  | some ('-' :: rest) =>
    isPlainNumber (if rest.getLast? = some '\n' then rest.dropLast else rest)
  | _ => false

namespace Grammar

/-- The flags that an argument may be short for.  After two dashes the name may be cut; after a
single one the letters after the first may be a value. -/
def guesses (g : Grammar) (arg : Signs) : List (Flag × String × Option Signs) :=
  match arg with
  | .char '-' :: .char '-' :: _ =>
    let (name, value) := splitAtEquals arg
    (g.flagNames.filter fun entry => name.isPrefixOf (Signs.ofString entry.1)).map
      fun (full, flag) => (flag, full, value)
  | _ =>
    g.flagNames.filterMap fun (full, flag) =>
      if Signs.ofString full = arg.take 2 then some (flag, full, some (arg.drop 2))
      else if arg.isPrefixOf (Signs.ofString full) then some (flag, full, none)
      else none

/-- What an argument is that starts with a dash and is not the name of a flag. -/
def classifyDashed (g : Grammar) (arg : Signs) : Except Stop Reading :=
  match g.guesses arg with
  | [(flag, name, attached)] => .ok (.known flag name attached)
  | [] =>
    .ok (if isNegativeNumber arg || arg.contains (.char ' ') then .operand else .unknown)
  | several =>
    .error (g.refuse ("ambiguous option: " ++ arg.shown ++ " could match "
      ++ ", ".intercalate (several.map fun guess => guess.2.1)))

/-- What an argument is, by itself. -/
def classify (g : Grammar) (arg : Signs) : Except Stop Reading :=
  match arg with
  | .char '-' :: _ :: _ =>
    match g.find? arg with
    | some (name, flag) => .ok (.known flag name none)
    | none =>
      let (front, value) := splitAtEquals arg
      match value, g.find? front with
      | some v, some (name, flag) => .ok (.known flag name (some v))
      | _, _ => g.classifyDashed arg
  | _ => .ok .operand

/-- The two dashes after which nothing is a flag. -/
def dashes : Signs := [.char '-', .char '-']

/-- What the arguments are, each by itself. -/
def classifyAll (g : Grammar) : List Signs → Except Stop (List (Signs × Reading))
  | [] => .ok []
  | arg :: rest =>
    if arg = dashes then .ok ((arg, .separator) :: rest.map fun operand => (operand, .operand))
    else do
      let reading ← g.classify arg
      let readings ← g.classifyAll rest
      return (arg, reading) :: readings

end Grammar

/-! ### Taking flags -/

/-- The flags that are given, the last one first, and what is left over.  A flag may be given and
still have no value. -/
structure Given where
  values : List (String × Option Signs)
  leftOver : List Signs

namespace Given

/-- Nothing yet. -/
def empty : Given := ⟨[], []⟩

/-- Whether a flag is given. -/
def includes (given : Given) (title : String) : Bool :=
  given.values.any fun entry => entry.1 == title

/-- The value of a flag that may be left out: the last one that was given. -/
def value? (given : Given) (title : String) : Option Signs :=
  (given.values.find? fun entry => entry.1 == title).bind Prod.snd

/-- The value of a flag that has a default: none if the flag was given without a value. -/
def valueOr (given : Given) (title default : String) : Option Signs :=
  if given.includes title then given.value? title else some (Signs.ofString default)

/-- With one more argument left over. -/
def leave (given : Given) (arg : Signs) : Given :=
  { given with leftOver := given.leftOver ++ [arg] }

end Given

namespace Grammar

/-- Give a flag a value, or leave it without one.  The choices of the flag are looked at before the
flags that exclude it. -/
def give (g : Grammar) (flag : Flag) (value : Option Signs) (given : Given) :
    Except Stop Given :=
  let accepted := { given with values := (flag.title, value) :: given.values }
  let checked : Except Stop Unit := match flag.choices, value with
    | some choices, some value =>
      if choices.any fun choice => Signs.ofString choice == value then .ok ()
      else .error (g.refuseFlag flag (invalidChoice value choices))
    | _, _ => .ok ()
  let rival := g.exclusive.find? fun title => title != flag.title && given.includes title
  match checked, g.exclusive.contains flag.title, rival with
  | .error stop, _, _ => .error stop
  | .ok (), true, some title =>
    .error (g.refuseFlag flag ("not allowed with argument " ++ title))
  | .ok (), _, _ => .ok accepted

/-- A value that the help flag was given although it takes none. -/
def refuseValue (g : Grammar) (flag : Flag) (value : Signs) : Stop :=
  g.refuseFlag flag ("ignored explicit argument " ++ quotedName value)

/-- The end that text after the short name of the help flag leads to.  Its letters are short names
of further flags; the first one that is none, and all after it, would be a value. -/
def stopAtLetters (g : Grammar) (flag : Flag) : Signs → Stop
  | [] => g.refuseValue flag []
  | letter :: rest =>
    if (g.find? [.char '-', letter]).isNone then g.refuseValue flag (letter :: rest)
    else if rest.isEmpty then .help g.help
    else g.stopAtLetters flag rest

/-- The end that the help flag leads to. -/
def stopAtHelp (g : Grammar) (flag : Flag) (name : String) : Option Signs → Stop
  | none => .help g.help
  | some value =>
    if name.length = 2 then g.stopAtLetters flag value else g.refuseValue flag value

/-- The value that stands in the same argument as its flag: two dashes are none. -/
def attachedValue (value : Signs) : Option Signs :=
  if value = dashes then none else some value

/-- Take the arguments from left to right. -/
def consume (g : Grammar) : List (Signs × Reading) → Given → Except Stop Given
  | [], given => .ok given
  | (_, .known flag name attached) :: rest, given =>
    if flag.valued then
      match attached with
      | some value =>
        match g.give flag (attachedValue value) given with
        | .ok given => g.consume rest given
        | .error stop => .error stop
      | none =>
        match rest with
        | (value, .operand) :: rest =>
          match g.give flag (some value) given with
          | .ok given => g.consume rest given
          | .error stop => .error stop
        | _ => .error (g.refuseFlag flag "expected one argument")
    else .error (g.stopAtHelp flag name attached)
  | (arg, _) :: rest, given => g.consume rest (given.leave arg)

/-- The flags that the arguments give, and what is left over. -/
def read (g : Grammar) (args : List Signs) : Except Stop Given := do
  let readings ← g.classifyAll args
  g.consume readings .empty

end Grammar

end ContractAudit.CommandLine
