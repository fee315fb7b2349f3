import ContractAudit.Source.FunctionDef
import ContractAudit.Source.Line

/-!
# Segmentation

A source is cut into functions line by line.  Outside a function, a line that is no comment and has
a header opens one.  From there on opening and closing braces are counted, on the first line from
the keyword on and everywhere without trailing comments:

* a semicolon in front of the first opening brace ends a declaration without a body;
* a line with a closing brace ends the function once a brace has been opened and no more are open
  than have been closed;
* a function that never ends is dropped.

Main definitions: `Segment`, the three ways in which an opened function ends; `segmentsFrom`, the
scan; `segments` and `functions`, the scan of a whole source.
-/

namespace ContractAudit.Source

open ContractAudit.Text

/-- How a function that was opened ends. -/
inductive Segment where
  /-- With its last brace. -/
  | closed (f : FunctionDef)
  /-- With a semicolon where the body would be. -/
  | bodiless (name : Text) (lineStart : Nat)
  /-- Not at all. -/
  | unclosed (name : Text) (lineStart : Nat)

/-- A function that has been opened and has not ended. -/
structure OpenFunction where
  name : Text
  /-- The number of its first line. -/
  start : Nat
  /-- Its lines so far, the last one first. -/
  body : List Text
  /-- What stood in front of the first brace on each line so far, the last one first. -/
  heads : List Text
  /-- Opening braces less closing ones. -/
  depth : Int
  /-- Whether a brace has been opened. -/
  opened : Bool

namespace OpenFunction

/-- A function at its header, before any of its lines has been taken in. -/
def atHeader (name : Text) (start : Nat) : OpenFunction :=
  ⟨name, start, [], [], 0, false⟩

/-- Everything in front of the first brace, the lines set apart by blanks. -/
def signature (f : OpenFunction) : Text :=
  f.heads.reverse.flatMap (' ' :: ·)

/-- Whether a line whose code is `code` ends the function as a declaration without a body. -/
def endsBodiless (f : OpenFunction) (code : Text) : Bool :=
  !f.opened && (code.takeWhile (· != '{')).contains ';'

/-- The function with one more line, of which `code` is what counts. -/
def extend (f : OpenFunction) (line code : Text) : OpenFunction :=
  let opens := code.count '{'
  { f with
    body := line :: f.body
    heads := if f.opened then f.heads else code.takeWhile (· != '{') :: f.heads
    depth := f.depth + opens - code.count '}'
    opened := f.opened || opens != 0 }

/-- Whether the function, its last line taken in, ends with that line, of which `code` is what
counts. -/
def endsClosed (f : OpenFunction) (code : Text) : Bool :=
  f.opened && code.contains '}' && decide (f.depth ≤ 0)

/-- The finished definition, whose last line has the given number. -/
def close (f : OpenFunction) (default : Visibility) (lineEnd : Nat) : FunctionDef :=
  FunctionDef.ofSignature default f.name f.signature f.body.reverse f.start lineEnd

end OpenFunction

/-- The function that a line opens, and the code of the line that counts for it. -/
def opening? (number : Nat) (line : Text) : Option (OpenFunction × Text) :=
  if isComment line then none
  else (header? (codePart line)).map fun (name, code) => (OpenFunction.atHeader name number, code)

/-- The scan of the lines from a number on, inside the given function if there is one. -/
def segmentsFrom (default : Visibility) : Nat → Option OpenFunction → List Text → List Segment
  | _, none, [] => []
  | _, some f, [] => [.unclosed f.name f.start]
  | number, current, line :: lines =>
    let entered := match current with
      | some f => some (f, codePart line)
      | none => opening? number line
    match entered with
    | none => segmentsFrom default (number + 1) none lines
    | some (f, code) =>
      if f.endsBodiless code then
        .bodiless f.name f.start :: segmentsFrom default (number + 1) none lines
      else
        let g := f.extend line code
        if g.endsClosed code then
          .closed (g.close default number) :: segmentsFrom default (number + 1) none lines
        else segmentsFrom default (number + 1) (some g) lines

/-- The segments of a source, in order. -/
def segments (default : Visibility) (source : Text) : List Segment :=
  segmentsFrom default 1 none (lines source)

/-- The definition of a segment that has one. -/
def Segment.function? : Segment → Option FunctionDef
  | closed f => some f
  | _ => none

/-- The functions of a source, in order. -/
def functions (default : Visibility) (source : Text) : List FunctionDef :=
  (segments default source).filterMap Segment.function?

end ContractAudit.Source
