import ContractAudit.Text.Word
import ContractAudit.Text.Blank

/-!
# Patterns

The idioms that the detectors look for are patterns: descriptions of a short stretch of text, built
from single characters, runs of characters and a few conditions on the surroundings.

A pattern is tried at a place of a text.  All it can see of what lies in front is the previous
character, so a place is that character together with the text that follows.

* `Pattern` -- the descriptions;
* `Pattern.run` -- whether a pattern can be followed from a place, in such a way that the rest of
  the text satisfies a further test;
* `Pattern.occursIn` -- whether a pattern occurs anywhere in a text.
-/

namespace ContractAudit.Text

/-- A description of a stretch of text. -/
inductive Pattern where
  /-- The empty stretch. -/
  | nothing
  /-- One character that passes the test. -/
  | one (test : Char → Bool)
  /-- Any number of characters, each of which passes the test. -/
  | many (test : Char → Bool)
  /-- The first pattern and then the second. -/
  | seq (first second : Pattern)
  /-- Either of the two patterns. -/
  | either (left right : Pattern)
  /-- The pattern once or several times in a row. -/
  | repeated (body : Pattern)
  /-- The start of the text. -/
  | textStart
  /-- The end of the text, or the place in front of a line feed that ends it. -/
  | textEnd
  /-- A place with a word character on exactly one side. -/
  | wordEdge
  /-- A place whose previous character does not pass the test. -/
  | notAfter (test : Char → Bool)
  /-- A place whose next character does not pass the test. -/
  | notBefore (test : Char → Bool)

namespace Pattern

instance : Append Pattern := ⟨seq⟩

instance : OrOp Pattern := ⟨either⟩

/-- The characters of a string, one after the other. -/
def lit (s : String) : Pattern :=
  s.toList.foldr (fun c rest => one (· == c) ++ rest) nothing

/-- One of several strings. -/
def oneOf : List String → Pattern
  | [] => one fun _ => false
  | [s] => lit s
  | s :: rest => lit s ||| oneOf rest

/-- One of the characters of a string. -/
def among (s : String) : Pattern :=
  one s.toList.contains

/-- The pattern or nothing. -/
def maybe (p : Pattern) : Pattern :=
  p ||| nothing

/-- Any number of blanks. -/
def blanks : Pattern := many isBlank

/-- At least one blank. -/
def someBlanks : Pattern := one isBlank ++ many isBlank

/-- Any number of word characters. -/
def wordChars : Pattern := many isWord

/-- At least one word character. -/
def someWord : Pattern := one isWord ++ many isWord

/-! ### Following a pattern -/

/-- What is tried at a place: given the previous character and the text that follows. -/
abbrev Trial := Option Char → Text → Bool

/-- Take any number of characters that pass the test, then go on with `next`. -/
def runMany (test : Char → Bool) (next : Trial) : Trial
  | previous, [] => next previous []
  | previous, c :: s => next previous (c :: s) || (test c && runMany test next (some c) s)

/-- Go on with `next`, here or after up to `n` steps. -/
def runRepeated (step : Trial → Trial) (next : Trial) : Nat → Trial
  | 0 => next
  | n + 1 => fun previous s =>
    next previous s || step (runRepeated step next n) previous s

/-- Whether the pattern can be followed from a place so that `next` holds where it ends. -/
def run : Pattern → Trial → Trial
  | nothing, next => next
  | one test, next => fun _ s =>
    match s with
    | [] => false
    | c :: s => test c && next (some c) s
  | many test, next => runMany test next
  | seq first second, next => first.run (second.run next)
  | either left right, next => fun previous s =>
    left.run next previous s || right.run next previous s
  | repeated body, next => fun previous s =>
    body.run (runRepeated body.run next s.length) previous s
  | textStart, next => fun previous s => previous.isNone && next previous s
  | textEnd, next => fun previous s => (s.isEmpty || s == ['\n']) && next previous s
  | wordEdge, next => fun previous s =>
    previous.any isWord != s.head?.any isWord && next previous s
  | notAfter test, next => fun previous s => !previous.any test && next previous s
  | notBefore test, next => fun previous s => !s.head?.any test && next previous s

/-- Whether the pattern can be followed from a place at all. -/
def startsAt (p : Pattern) : Trial :=
  p.run fun _ _ => true

/-- Whether the pattern occurs at a place or further on. -/
def occursFrom (p : Pattern) : Trial
  | previous, [] => p.startsAt previous []
  | previous, c :: s => p.startsAt previous (c :: s) || occursFrom p (some c) s

/-- Whether the pattern occurs anywhere in the text. -/
def occursIn (p : Pattern) (s : Text) : Bool :=
  p.occursFrom none s

end Pattern

end ContractAudit.Text
