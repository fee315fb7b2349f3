import ContractAudit.Text.Blank
import ContractAudit.Text.Lines

/-!
# Environment files

An environment file sets variables, one to a line: `NAME=value`.  A value may stand between single
or double quotes and then keeps its blanks, its line ends and its number signs; without quotes it
ends at the line end or in front of a blank and a number sign.  A value may refer to variables that
are set already.  Lines that are not understood are skipped, and a line with a name alone leaves the
variable of that name without a value.

* `EnvironmentFile.bindings` -- the variables of a file, in order, as they are written;
* `EnvironmentFile.assign` -- a variable with a new value;
* `EnvironmentFile.expand` -- a value with its references replaced;
* `EnvironmentFile.settled` -- the variables of a file with their final values.
-/

namespace ContractAudit.EnvironmentFile

open ContractAudit.Text

/-- A line end. -/
def isLineEnd (c : Char) : Bool := c == '\n' || c == '\r'

/-- A blank within a line. -/
def isInlineBlank (c : Char) : Bool := isBlank c && !isLineEnd c

/-! ### Values -/

/-- The text up to the closing quote, as it is written, and the text after the quote.  A quote after
a backslash does not close, unless there is no other one; a backslash after a backslash does not
count for that. -/
def untilQuote (mark : Char) : Text → Option (Text × Text)
  | [] => none
  | '\\' :: c :: s =>
    if c = '\\' then (untilQuote mark s).map fun (value, rest) => ('\\' :: c :: value, rest)
    else if c = mark then
      match untilQuote mark s with
      | some (value, rest) => some ('\\' :: c :: value, rest)
      | none => some (['\\'], s)
    else (untilQuote mark (c :: s)).map fun (value, rest) => ('\\' :: value, rest)
  | c :: s =>
    if c = mark then some ([], s)
    else (untilQuote mark s).map fun (value, rest) => (c :: value, rest)

/-- The character that a letter after a backslash stands for between double quotes. -/
def doubleEscape? (c : Char) : Option Char :=
  if c = '\\' ∨ c = '\x27' ∨ c = '"' then some c
  else if c = 'a' then some '\x07'
  else if c = 'b' then some '\x08'
  else if c = 'f' then some '\x0c'
  else if c = 'n' then some '\n'
  else if c = 'r' then some '\r'
  else if c = 't' then some '\t'
  else if c = 'v' then some '\x0b'
  else none

/-- The character that a letter after a backslash stands for between single quotes. -/
def singleEscape? (c : Char) : Option Char :=
  if c = '\\' ∨ c = '\x27' then some c else none

/-- A text with its escapes replaced; a backslash in front of anything else stays. -/
def unescape (escape? : Char → Option Char) : Text → Text
  | [] => []
  | '\\' :: c :: s =>
    match escape? c with
    | some d => d :: unescape escape? s
    | none => '\\' :: unescape escape? (c :: s)
  | c :: s => c :: unescape escape? s

/-- The part of a line in front of a blank and a number sign. -/
def beforeComment : Text → Text
  | [] => []
  | c :: s =>
    if isBlank c && (s.dropWhile isBlank).head? == some '#' then [] else c :: beforeComment s

/-- The value after an equals sign, and the text after it.  Blanks in front of the value do not
belong to it; when a number sign follows them there is only a comment. -/
def readValue (s : Text) : Option (Text × Text) :=
  match s.dropWhile isInlineBlank with
  | '\x27' :: s =>
    (untilQuote '\x27' s).map fun (value, rest) => (unescape singleEscape? value, rest)
  | '"' :: s =>
    (untilQuote '"' s).map fun (value, rest) => (unescape doubleEscape? value, rest)
  | _ =>
    let line := s.takeWhile fun c => !isLineEnd c
    some (trim (beforeComment line), s.dropWhile fun c => !isLineEnd c)

/-! ### Bindings -/

/-- A name, and its value if it has one. -/
abbrev Binding := String × Option String

/-- The text from its next line on. -/
def nextLine (s : Text) : Text :=
  match s.dropWhile fun c => !isLineEnd c with
  | '\r' :: '\n' :: rest => rest
  | _ :: rest => rest
  | [] => []

/-- Whether nothing but a comment is left of the line. -/
def endsLine (s : Text) : Bool :=
  match s.dropWhile isInlineBlank with
  | [] => true
  | c :: _ => isLineEnd c || c == '#'

/-- The text after the word `export` and blanks, if it starts with them. -/
def dropExport (s : Text) : Text :=
  match after? "export".toList s with
  | some rest => if rest.head?.any isInlineBlank then rest.dropWhile isInlineBlank else s
  | none => s

/-- The name at the front of a text, with or without quotes. -/
def readName (s : Text) : Option (Text × Text) :=
  match s with
  | '\x27' :: s =>
    let name := s.takeWhile (· != '\x27')
    match s.dropWhile (· != '\x27') with
    | _ :: rest => if name.isEmpty then none else some (name, rest)
    | [] => none
  | s =>
    let isNameChar (c : Char) := !(c == '=' || c == '#' || isBlank c)
    let name := s.takeWhile isNameChar
    if name.isEmpty then none else some (name, s.dropWhile isNameChar)

/-- The binding at the front of a text, if there is one, and the text from the next line on. -/
def readBinding (s : Text) : Option Binding × Text :=
  match readName (dropExport s) with
  | none => (none, nextLine s)
  | some (name, rest) =>
    match rest.dropWhile isInlineBlank with
    | '=' :: rest =>
      match readValue rest with
      | none => (none, nextLine rest)
      | some (value, rest) =>
        if endsLine rest then (some (String.ofList name, some (String.ofList value)), nextLine rest)
        else (none, nextLine rest)
    | rest =>
      if endsLine rest then (some (String.ofList name, none), nextLine rest)
      else (none, nextLine rest)

/-- The bindings of a text, of which at most `count` are read. -/
def bindingsUpTo : (count : Nat) → Text → List Binding
  | 0, _ => []
  | count + 1, s =>
    match s.dropWhile isBlank with
    | [] => []
    | s =>
      let (binding, rest) := readBinding s
      binding.toList ++ bindingsUpTo count rest

/-- The bindings of a text: each of them takes at least one character. -/
def bindings (s : Text) : List Binding :=
  bindingsUpTo s.length s

/-! ### References -/

/-- The last binding of a name. -/
def lookup (name : String) (known : List Binding) : Option Binding :=
  known.reverse.find? fun entry => entry.1 == name

/-- What a reference to a name stands for.  A variable without a value stands for nothing; the
default is for names that are not bound at all. -/
def refer (name : String) (default : Option String) (known : List Binding) : String :=
  match lookup name known with
  | some (_, value) => value.getD ""
  | none => default.getD ""

/-- What stands between the braces of a reference: a name, and what it stands for if it is not set.
-/
def readReference (s : Text) : Option (String × Option String × Text) :=
  let name := s.takeWhile fun c => c != '}' && c != ':'
  match s.drop name.length with
  | '}' :: rest => some (String.ofList name, none, rest)
  | ':' :: '-' :: s =>
    let default := s.takeWhile (· != '}')
    match s.drop default.length with
    | _ :: rest => some (String.ofList name, some (String.ofList default), rest)
    | [] => none
  | _ => none

/-- A value with its references replaced, the first `skip` characters belonging to one. -/
def expandFrom (known : List Binding) : (skip : Nat) → Text → Text
  | _, [] => []
  | skip + 1, _ :: s => expandFrom known skip s
  | 0, c :: s =>
    match c, s with
    | '$', '{' :: inner =>
      match readReference inner with
      | some (name, default, rest) =>
        (refer name default known).toList ++ expandFrom known (s.length - rest.length) s
      | none => c :: expandFrom known 0 s
    | _, _ => c :: expandFrom known 0 s

/-- A value with its references replaced. -/
def expand (known : List Binding) (value : String) : String :=
  String.ofList (expandFrom known 0 value.toList)

/-- The variables with a new value for one of them: it keeps its place, or comes last if it is
new. -/
def assign (name : String) (value : Option String) : List Binding → List Binding
  | [] => [(name, value)]
  | entry :: rest =>
    if entry.1 = name then (name, value) :: rest else entry :: assign name value rest

/-- Give the variables their values one after the other; each may refer to the ones before it, and
to the given ones. -/
def resolve (outer : List Binding) : List Binding → List Binding → List Binding
  | known, [] => known
  | known, (name, value) :: rest =>
    resolve outer (assign name (value.map (expand (outer ++ known))) known) rest

/-- The text without a byte order mark in front of it. -/
def dropMark : Text → Text
  | '\uFEFF' :: s => s
  | s => s

/-- The variables of a file, given those of the environment. -/
def settled (environment : List (String × String)) (file : Text) : List Binding :=
  resolve (environment.map fun (name, value) => (name, some value)) []
    (bindings (withLineFeeds (dropMark file)))

end ContractAudit.EnvironmentFile
