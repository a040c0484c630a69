import PanelBoard.Text.Digit
import PanelBoard.Text.Split

/-!
# Tables over code points

A table lists ranges of code points in ascending order, each with a value. It
is written as words: `41-5A` is a range in hexadecimal, `41` a single code
point, and what follows `>` is the value.
-/

namespace PanelBoard.Text.Unicode

open PanelBoard.Text

/-- A value shared by the code points from `low` to `high`. -/
structure Run (α : Type) where
  low : Nat
  high : Nat
  value : α
  deriving Repr

/-- Ranges in ascending order. -/
abbrev Table (α : Type) := Array (Run α)

/-- Sets of code points are tables without values. -/
abbrev CodePointSet := Table Unit

namespace Table

variable {α : Type}

/-- Search the indices from `low` up to but not including `high`. -/
def findBetween (table : Table α) (code low high : Nat) : Option (Run α) :=
  if low < high then
    let middle := (low + high) / 2
    match table[middle]? with
    | none => none
    | some run =>
      if code < run.low then findBetween table code low middle
      else if run.high < code then findBetween table code (middle + 1) high
      else some run
  else none
termination_by high - low
decreasing_by all_goals omega

/-- The range that holds a code point. -/
def find? (table : Table α) (code : Nat) : Option (Run α) :=
  table.findBetween code 0 table.size

/-- Is the character in one of the ranges? -/
def contains (table : Table α) (c : Char) : Bool :=
  (table.find? c.toNat).isSome

end Table

/-- The words of a table's text, which may have several lines. -/
def words (text : String) : List (List Char) :=
  (splitOn (fun c => c == ' ' || c == '\n') text.toList).filter (!·.isEmpty)

/-- A hexadecimal numeral of a table's text; tables are written without faults. -/
def hexadecimal (digits : List Char) : Nat :=
  (numeral? 16 digits).getD 0

/-- Both ends of a range word. -/
def rangeEnds (word : List Char) : Nat × Nat :=
  match cutBefore (· == '-') word with
  | (low, _ :: high) => (hexadecimal low, hexadecimal high)
  | (low, []) => (hexadecimal low, hexadecimal low)

/-- The table written by a text, given the reading of what follows `>`. -/
def Table.ofText {α : Type} (value : List Char → α) (text : String) : Table α :=
  ((words text).map fun word =>
    let (range, rest) := cutBefore (· == '>') word
    let (low, high) := rangeEnds range
    { low, high, value := value (rest.drop 1) : Run α }).toArray

/-- The set written by a text. -/
def CodePointSet.ofText (text : String) : CodePointSet :=
  Table.ofText (fun _ => ()) text

end PanelBoard.Text.Unicode
