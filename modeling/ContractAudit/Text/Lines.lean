import ContractAudit.Text.Basic

/-!
# Lines

Two ways to cut a text into lines.  The analyses number the lines of `lines`, which end at a line
feed or at a carriage return followed by one; a carriage return alone belongs to its line.  The rows
of `rows` end at every character that Unicode counts as a line boundary, and a boundary at the very
end opens no further row.

* `lines`, `unlines` -- the numbered lines of a source, and a stretch of them as one text;
* `rows` -- the rows of a text;
* `indented` -- a text with every row moved to the right;
* `withLineFeeds` -- a text whose line ends, of whatever kind, are line feeds.
-/

namespace ContractAudit.Text

/-- The text with each carriage return in front of a line feed taken out. -/
def dropReturns : Text → Text
  | [] => []
  | '\r' :: '\n' :: s => '\n' :: dropReturns s
  | c :: s => c :: dropReturns s

/-- The lines of a text, in order.  A final line end is followed by one empty line. -/
def lines (s : Text) : List Text :=
  splitWhere (· == '\n') (dropReturns s)

/-- Consecutive lines as one text. -/
def unlines (ls : List Text) : Text :=
  joinWith '\n' ls

/-- The characters at which a row ends. -/
def isRowEnd (c : Char) : Bool :=
  let n := c.toNat
  (decide (0x0A ≤ n) && decide (n ≤ 0x0D)) || (decide (0x1C ≤ n) && decide (n ≤ 0x1E))
    || n == 0x85 || n == 0x2028 || n == 0x2029

/-- The rows of a text, in order.  A carriage return and the line feed after it end one row. -/
def rows : Text → List Text
  | [] => []
  | '\r' :: '\n' :: s => [] :: rows s
  | c :: s => if isRowEnd c then [] :: rows s else consHead c (rows s)

/-- The rows of a text, each but an empty one moved to the right by `width`; the first row is moved
in any case. -/
def indented (width : Nat) (s : Text) : Text :=
  let margin := List.replicate width ' '
  match rows (s ++ ['\n']) with
  | [] => margin
  | first :: others =>
    joinWith '\n' ((margin ++ first)
      :: others.map fun row => if row.isEmpty then row else margin ++ row)

/-- The text with a line feed for every line end. -/
def withLineFeeds : Text → Text
  | [] => []
  | '\r' :: '\n' :: s => '\n' :: withLineFeeds s
  | c :: s => (if c = '\r' then '\n' else c) :: withLineFeeds s

end ContractAudit.Text
