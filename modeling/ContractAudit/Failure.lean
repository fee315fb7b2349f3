import ContractAudit.Json.Checked

/-!
# Failures

Everything that can end an operation, as a cause.  The wording of all messages is in one place,
`Failure.message`; `Failure.isAuditFailure` tells the causes that the command line reports itself
from those that end the program.
-/

namespace ContractAudit

/-- How a row of octets fails to be UTF-8. -/
inductive OctetFault where
  | invalidStart
  | invalidContinuation
  | unexpectedEnd
  deriving DecidableEq, Repr

/-- What is wrong, in the words of the message. -/
def OctetFault.reason : OctetFault → String
  | invalidStart => "invalid start byte"
  | invalidContinuation => "invalid continuation byte"
  | unexpectedEnd => "unexpected end of data"

/-- The causes for which an operation fails. -/
inductive Failure where
  /-- The source was to be looked up by the address of a contract. -/
  | addressLookup
  /-- There is no such input mode. -/
  | unknownMode (mode : String)
  /-- An input mode was to be named, and was not. -/
  | unnamedMode
  /-- The source holds nothing but blanks. -/
  | emptySource
  /-- There is no such visibility. -/
  | unknownVisibility (name : String)
  /-- A number is written with more digits than are read. -/
  | longNumber (digits : Nat)
  /-- A number has more digits than are written. -/
  | unwritableNumber
  /-- The text names no version. -/
  | invalidVersion (text : String)
  /-- There is no such table of thresholds. -/
  | unknownTable (name : String)
  /-- The numbers do not form a table of thresholds. -/
  | badThresholds (values : List Int)
  /-- There is no such risk level. -/
  | unknownLevel (name : String)
  /-- A submitted finding lacks a field. -/
  | missingField (name : String)
  /-- A submitted finding is of a category that the catalog does not hold. -/
  | uncatalogued
  /-- A submitted finding has a list or a record where findings are told apart. -/
  | unkeyable (kind : String)
  /-- Fields did not pass their checks. -/
  | invalid (issues : List Issue)
  /-- A report without findings was asked for its first one. -/
  | noFinding
  /-- The language model could not be reached. -/
  | modelError (reason : String)
  /-- The language model had nothing to say. -/
  | noAnswer
  /-- A question was to be put, and was not. -/
  | noQuestion
  /-- There is no such report format. -/
  | unknownFormat (name : String)
  /-- There is no file of the name. -/
  | noSuchFile (name : Signs)
  /-- The name is that of a directory. -/
  | isDirectory (name : Signs)
  /-- A step of the name is no directory. -/
  | notDirectory (name : Signs)
  /-- A name, or a step of it, is longer than the file system allows. -/
  | nameTooLong (name : Signs)
  /-- A name holds the character that ends a name. -/
  | nulInPath
  /-- A file is not UTF-8: from the first position up to before the second one. -/
  | notUtf8 (octet start stop : Nat) (fault : OctetFault)
  /-- An encoding does not have the signs from the first position up to before the second one; the
  first of them has the given code point. -/
  | unencodable (encoding : String) (code start stop : Nat) (reason : String)
  /-- There is no such log level. -/
  | unknownLogLevel (name : String)
  /-- The log level names the log format. -/
  | logFormatAsLevel (format : String)
  /-- The log level names the table of log formats. -/
  | logStylesAsLevel

namespace Failure

open ContractAudit.Text

/-- Whole numbers in parentheses; a single one is followed by a comma. -/
def tuple : List Int → String
  | [n] => "(" ++ toString n ++ ",)"
  | values => "(" ++ ", ".intercalate (values.map toString) ++ ")"

/-- What is said of a number with too many digits to be written. -/
def tooManyDigits : String :=
  "Exceeds the limit (4300 digits) for integer string conversion; "
    ++ "use sys.set_int_max_str_digits() to increase the limit"

/-- The wording of a failure.  Failed checks are told by their issues and have no sentence. -/
def message : Failure → String
  | addressLookup => "Address lookup not yet implemented"
  | unknownMode mode => "Unknown input mode: " ++ quoted mode
  | unnamedMode => "Unknown input mode: []"
  | emptySource => "Code cannot be empty"
  | unknownVisibility name => "Unknown visibility: " ++ quoted name
  | longNumber digits =>
    "Exceeds the limit (4300 digits) for integer string conversion: value has " ++ toString digits
      ++ " digits; use sys.set_int_max_str_digits() to increase the limit"
  | unwritableNumber => tooManyDigits
  | invalidVersion text => "Invalid version: " ++ quoted text
  | unknownTable name =>
    "Unknown threshold table " ++ quoted name ++ "; expected one of ['standard', 'strict']"
  | badThresholds values =>
    if values.all Numeral.isWritable then
      "Thresholds must be three ascending scores in (0, 100]: " ++ tuple values
    else tooManyDigits
  | unknownLevel name => quoted name
  | missingField name => quoted name
  | uncatalogued => "'NoneType' object has no attribute 'title'"
  | unkeyable kind => "unhashable type: " ++ quoted kind
  | invalid _ => ""
  | noFinding => "list index out of range"
  | modelError reason => "OpenAI API error: " ++ reason
  | noAnswer => "No response content from OpenAI"
  | noQuestion => "'list' object has no attribute 'lower'"
  | unknownFormat name => "Unknown report format: " ++ quoted name
  | noSuchFile name => "[Errno 2] No such file or directory: " ++ quotedName name
  | isDirectory name => "[Errno 21] Is a directory: " ++ quotedName name
  | notDirectory name => "[Errno 20] Not a directory: " ++ quotedName name
  | nameTooLong name => "[Errno 36] File name too long: " ++ quotedName name
  | nulInPath => "embedded null byte"
  | notUtf8 octet start stop fault =>
    (if stop = start + 1 then
      "'utf-8' codec can't decode byte 0x" ++ String.ofList (hexDigits 2 octet) ++ " in position "
        ++ toString start
    else
      "'utf-8' codec can't decode bytes in position " ++ toString start ++ "-"
        ++ toString (stop - 1))
      ++ ": " ++ fault.reason
  | unencodable encoding code start stop reason =>
    "'" ++ encoding ++ "' codec can't encode character"
      ++ (if stop = start + 1 then
          " '" ++ String.ofList (escapeCode code) ++ "' in position " ++ toString start
        else "s in position " ++ toString start ++ "-" ++ toString (stop - 1))
      ++ ": " ++ reason
  | unknownLogLevel name => "module 'logging' has no attribute '" ++ name ++ "'"
  | logFormatAsLevel format => "Unknown level: " ++ quoted format
  | logStylesAsLevel =>
    "Level not an integer or a valid string: \x7b"
      ++ "'%': (<class 'logging.PercentStyle'>, '%(levelname)s:%(name)s:%(message)s'), "
      ++ "'\x7b': (<class 'logging.StrFormatStyle'>, "
      ++ "'\x7blevelname\x7d:\x7bname\x7d:\x7bmessage\x7d'), "
      ++ "'$': (<class 'logging.StringTemplateStyle'>, "
      ++ "'$\x7blevelname\x7d:$\x7bname\x7d:$\x7bmessage\x7d')\x7d"

/-- A sentence for every failure: also failed checks say which fields are at fault. -/
def sentence : Failure → String
  | invalid issues => "Invalid fields: " ++ ", ".intercalate (issues.map Issue.place)
  | failure => failure.message

/-- The failures of an audit and of the dialogue about it, which the command line reports in its log
and by its exit code. -/
def isAuditFailure : Failure → Bool
  | addressLookup | unknownMode _ | unnamedMode | emptySource | modelError _ | noAnswer => true
  | _ => false

end Failure

end ContractAudit
