import ContractAudit.Text.Printable
import ContractAudit.Text.Sign

/-!
# Quoted text

Messages quote the text they complain about.  The quotes are single, or double when the text holds a
single quote and no double one.  Inside, the backslash and the closing quote are escaped, and a
character that does not print is written by its code point, as is an octet.

* `quote` -- signs with their quotes;
* `quoted`, `quotedName` -- the same for strings, and for the names of files.
-/

namespace ContractAudit.Text

/-- The quote that signs are put between. -/
def quoteMark (s : Signs) : Char :=
  if s.any (· == .char '\x27') && !s.any (· == .char '"') then '"' else '\x27'

/-- One sign between the given quotes. -/
def quoteSign (mark : Char) : Sign → Text
  | .char c =>
    if c = mark ∨ c = '\\' then ['\\', c]
    else if c = '\n' then ['\\', 'n']
    else if c = '\r' then ['\\', 'r']
    else if c = '\t' then ['\\', 't']
    else if isPrintable c then [c]
    else escapeCode c.toNat
  | sign => escapeCode sign.code

/-- The signs between quotes. -/
def quote (s : Signs) : Text :=
  let mark := quoteMark s
  mark :: s.flatMap (quoteSign mark) ++ [mark]

/-- A string between quotes. -/
def quoted (s : String) : String :=
  String.ofList (quote (Signs.ofString s))

/-- The name of a file between quotes. -/
def quotedName (name : Signs) : String :=
  String.ofList (quote name)

end ContractAudit.Text
