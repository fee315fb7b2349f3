import ContractAudit.Text.Pattern
import ContractAudit.Text.Digit

/-!
# Idioms of contract source

The patterns by which the detectors recognise what a stretch of Solidity does.  They look at the
text alone: no idiom knows about strings, nesting or types.

* calls: `externalCall`, `lowLevelCall`, `successCheck`, `inlineCheck`;
* writes: `assignment`, `increment`, `mappingAssignment`, `scopedVariable`, `localDeclaration`,
  `forHeader`, `arithmetic`;
* protection: `reentrancyGuard`, `accessCheck`;
* names: `sensitiveName`.
-/

namespace ContractAudit.Source.Idiom

open ContractAudit.Text ContractAudit.Text.Pattern

/-! ### Calls -/

/-- A low-level call by one of its three names, with its arguments, or with call options that close
before the arguments or stay open to the end of the text; or the older form, in which the value and
the gas are passed by further calls. -/
def callTarget : Pattern :=
  lit "." ++ oneOf ["call", "delegatecall", "staticcall"] ++ blanks
      ++ ((lit "\x7b" ++ many (· != '}') ++ lit "\x7d" ++ blanks ++ lit "(")
        ||| (lit "\x7b" ++ many (· != '}') ++ textEnd)
        ||| lit "(")
    ||| lit ".call"
      ++ repeated
        (lit "." ++ oneOf ["value", "gas"] ++ blanks ++ lit "(" ++ many (· != ')') ++ lit ")")
      ++ blanks ++ lit "("

/-- A call that hands control to another contract, value transfers included. -/
def externalCall : Pattern :=
  callTarget ||| lit "." ++ oneOf ["send", "transfer"] ++ blanks ++ lit "("

/-- A call that reports its failure through a return value. -/
def lowLevelCall : Pattern :=
  callTarget ||| lit ".send" ++ blanks ++ lit "("

/-- The start of a condition: `require`, `assert` or `if` and the opening parenthesis. -/
def condition : Pattern :=
  wordEdge ++ oneOf ["require", "assert", "if"] ++ blanks ++ lit "("

/-- A condition on a success flag that is known by its name. -/
def flagCheck : Pattern :=
  condition ++ blanks ++ maybe (lit "!") ++ blanks ++ maybe (lit "(") ++ blanks
    ++ (wordChars ++ among "Ss" ++ lit "uccess" ++ wordChars ||| oneOf ["sent", "ok"]) ++ wordEdge

/-- A condition on the call itself. -/
def callCheck : Pattern :=
  condition ++ many (· != '\n') ++ lit "." ++ oneOf ["call", "delegatecall", "staticcall", "send"]
    ++ wordEdge

/-- The forms in which the outcome of a call is checked on its own line or on a later one. -/
def successCheck : List Pattern :=
  [flagCheck, callCheck]

/-- A success flag at the head of a tuple. -/
def tupleFlag : Pattern :=
  lit "(" ++ blanks ++ lit "bool" ++ someBlanks ++ someWord ++ blanks ++ lit ","

/-- A success flag that is declared and set. -/
def declaredFlag : Pattern :=
  wordEdge ++ lit "bool" ++ someBlanks ++ someWord ++ blanks ++ lit "=" ++ blanks ++ one (· != '=')

/-- The forms in which the line of a call keeps its outcome. -/
def inlineCheck : List Pattern :=
  [tupleFlag, declaredFlag]

/-! ### Writes -/

/-- An assignment sign, alone or with an operator, that is not part of a comparison or an arrow. -/
def assignment : Pattern :=
  notAfter "=!<>+-*/%&|^".toList.contains
    ++ maybe (among "+-*/%&|^" ||| lit "<<" ||| lit ">>") ++ lit "="
    ++ notBefore "=>".toList.contains

/-- A step up or down by one. -/
def increment : Pattern :=
  oneOf ["++", "--"]

/-- An assignment to an indexed name. -/
def mappingAssignment : Pattern :=
  someWord ++ blanks ++ lit "[" ++ many (· != ']') ++ lit "]" ++ blanks
    ++ maybe (among "+-*/") ++ lit "=" ++ notBefore (· == '=')

/-- A data location that is not contract storage. -/
def scopedVariable : Pattern :=
  wordEdge ++ oneOf ["memory", "calldata"] ++ wordEdge

/-- The types of values that are declared locally. -/
def valueType : Pattern :=
  (maybe (lit "u") ++ lit "int" ++ many isDigit) ||| lit "bool"
    ||| (lit "address" ++ maybe (someBlanks ++ lit "payable"))
    ||| (lit "bytes" ++ many isDigit) ||| lit "string" ||| lit "var"

/-- A text that starts with the declaration of a local value. -/
def localDeclaration : Pattern :=
  textStart ++ blanks ++ maybe (lit "(") ++ blanks ++ valueType ++ someBlanks ++ someWord ++ blanks
    ++ among ",=)"

/-- A text that starts with the head of a `for` loop. -/
def forHeader : Pattern :=
  textStart ++ blanks ++ lit "for" ++ blanks ++ lit "("

/-- Arithmetic that can leave the range of its type: steps, the compound assignments of addition,
subtraction and multiplication, and an assignment with a product on its right. -/
def arithmetic : Pattern :=
  oneOf ["++", "--", "+=", "-=", "*="]
    ||| (notAfter "=!<>".toList.contains ++ lit "=" ++ notBefore "=>".toList.contains
      ++ many (fun c => c != '=' && c != ';') ++ lit "*")

/-! ### Protection -/

/-- A reentrancy guard, as a modifier or as a base contract. -/
def reentrancyGuard : Pattern :=
  (wordEdge ++ lit "nonReentrant" ++ wordEdge)
    ||| (wordEdge ++ lit "ReentrancyGuard" ++ wordChars ++ wordEdge)

/-- The forms in which a function checks who calls it: an `only...` modifier, a role check, an owner
or role helper, a comparison with the sender. -/
def accessCheck : List Pattern :=
  [wordEdge ++ lit "only" ++ one (fun c => c.isUpper || c == '_') ++ wordChars ++ wordEdge,
   wordEdge ++ lit "hasRole" ++ blanks ++ lit "(",
   wordEdge ++ lit "_check" ++ oneOf ["Owner", "Role"] ++ blanks ++ lit "(",
   (lit "msg.sender" ++ blanks ++ among "!=" ++ lit "=")
     ||| (among "!=" ++ lit "=" ++ blanks ++ lit "msg.sender")]

/-! ### Names -/

/-- Whether two letters agree when case is ignored, for a lower case letter `c` of ASCII: the dotted
capital and the dotless small I count as an `i`, the long s as an `s`. -/
def sameLetter (c d : Char) : Bool :=
  d.toLower == c || (c == 'i' && (d.toNat == 0x130 || d.toNat == 0x131))
    || (c == 's' && d.toNat == 0x17F)

/-- A lower case string in letters of any case. -/
def anyCase (s : String) : Pattern :=
  s.toList.foldr (fun c rest => one (sameLetter c) ++ rest) nothing

/-- A name that speaks of moving or creating value. -/
def sensitiveName : Pattern :=
  anyCase "transfer" ||| anyCase "mint" ||| anyCase "burn"

end ContractAudit.Source.Idiom
