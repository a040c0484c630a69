import PanelBoard.Json.Value
import PanelBoard.Text.Digit

/-!
# Printing JSON

The compact form has no blanks; the pretty form has one line per element,
indented by two blanks per level. Characters outside ASCII stand for themselves.
-/

namespace PanelBoard.Json

open PanelBoard.Text

/-- A character as it stands in a JSON string. -/
def escapeChar (c : Char) : List Char :=
  match c with
  | '"' => ['\\', '"']
  | '\\' => ['\\', '\\']
  | '\x08' => ['\\', 'b']
  | '\x0c' => ['\\', 'f']
  | '\n' => ['\\', 'n']
  | '\r' => ['\\', 'r']
  | '\t' => ['\\', 't']
  | _ =>
    if c.toNat < 0x20 then
      ['\\', 'u', '0', '0', lowerHexDigit (c.toNat / 16), lowerHexDigit (c.toNat % 16)]
    else [c]

/-- A text as a JSON string. -/
def printText (text : String) : List Char :=
  '"' :: text.toList.flatMap escapeChar ++ ['"']

/-- A whole number. -/
def printNumber : Int → List Char
  | .ofNat n => decimal n
  | .negSucc n => '-' :: decimal (n + 1)

/-- The blanks and line ends that a form puts between the parts of a value, by
the level of nesting. -/
structure Layout where
  /-- Before an element, and before the bracket that closes elements. -/
  newLine : Nat → List Char
  /-- Behind the colon of a member. -/
  afterColon : List Char

/-- No blanks. -/
def Layout.compact : Layout where
  newLine _ := []
  afterColon := []

/-- One line per element, two blanks per level. -/
def Layout.pretty : Layout where
  newLine level := '\n' :: List.replicate (2 * level) ' '
  afterColon := [' ']

mutual

/-- A value at a level of nesting. -/
def printAt (layout : Layout) (level : Nat) : Value → List Char
  | .null => ['n', 'u', 'l', 'l']
  | .boolean true => ['t', 'r', 'u', 'e']
  | .boolean false => ['f', 'a', 'l', 's', 'e']
  | .number value => printNumber value
  | .text value => printText value
  | .list [] => ['[', ']']
  | .list (element :: rest) =>
    '[' :: layout.newLine (level + 1) ++ printAt layout (level + 1) element ++
      printElements layout (level + 1) rest ++ layout.newLine level ++ [']']
  | .object [] => ['{', '}']
  | .object ((key, value) :: rest) =>
    '{' :: layout.newLine (level + 1) ++ printText key ++ ':' :: layout.afterColon ++
      printAt layout (level + 1) value ++ printMembers layout (level + 1) rest ++
      layout.newLine level ++ ['}']

/-- The elements behind the first one. -/
def printElements (layout : Layout) (level : Nat) : List Value → List Char
  | [] => []
  | element :: rest =>
    ',' :: layout.newLine level ++ printAt layout level element ++
      printElements layout level rest

/-- The members behind the first one. -/
def printMembers (layout : Layout) (level : Nat) : List (String × Value) → List Char
  | [] => []
  | (key, value) :: rest =>
    ',' :: layout.newLine level ++ printText key ++ ':' :: layout.afterColon ++
      printAt layout level value ++ printMembers layout level rest

end

/-- The compact form. -/
def Value.compact (value : Value) : String :=
  String.ofList (printAt .compact 0 value)

/-- The pretty form. -/
def Value.pretty (value : Value) : String :=
  String.ofList (printAt .pretty 0 value)

end PanelBoard.Json
