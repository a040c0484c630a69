import PanelBoard.Number.Binary64

/-!
# TOML values

The value of a TOML document or of one of its keys. Tables keep the order of
the document and hold each key once.
-/

namespace PanelBoard.Toml

open PanelBoard.Number

/-- A TOML value. A date or time is kept as it is written. -/
inductive Value where
  | text (value : String)
  | integer (value : Int)
  | float (value : Binary64)
  | boolean (value : Bool)
  | dateTime (literal : String)
  | array (elements : List Value)
  | table (entries : List (String × Value))
  deriving Repr

mutual

/-- Are two values the same? -/
def Value.isSame : Value → Value → Bool
  | .text first, .text second => first == second
  | .integer first, .integer second => first == second
  | .float first, .float second => first == second
  | .boolean first, .boolean second => first == second
  | .dateTime first, .dateTime second => first == second
  | .array first, .array second => areSame first second
  | .table first, .table second => entriesSame first second
  | _, _ => false

/-- Are the elements of two arrays the same? -/
def areSame : List Value → List Value → Bool
  | [], [] => true
  | first :: firsts, second :: seconds => first.isSame second && areSame firsts seconds
  | _, _ => false

/-- Are the entries of two tables the same? -/
def entriesSame : List (String × Value) → List (String × Value) → Bool
  | [], [] => true
  | (key, first) :: firsts, (other, second) :: seconds =>
    key == other && first.isSame second && entriesSame firsts seconds
  | _, _ => false

end

mutual

theorem Value.isSame_iff : ∀ first second : Value, first.isSame second = true ↔ first = second
  | .text first, second => by cases second <;> simp [Value.isSame]
  | .integer first, second => by cases second <;> simp [Value.isSame]
  | .float first, second => by cases second <;> simp [Value.isSame]
  | .boolean first, second => by cases second <;> simp [Value.isSame]
  | .dateTime first, second => by cases second <;> simp [Value.isSame]
  | .array first, second => by
    cases second with
    | array second => simp [Value.isSame, areSame_iff first second]
    | _ => simp [Value.isSame]
  | .table first, second => by
    cases second with
    | table second => simp [Value.isSame, entriesSame_iff first second]
    | _ => simp [Value.isSame]

theorem areSame_iff : ∀ first second : List Value, areSame first second = true ↔ first = second
  | [], second => by cases second <;> simp [areSame]
  | first :: firsts, second => by
    cases second with
    | nil => simp [areSame]
    | cons second seconds =>
      simp [areSame, first.isSame_iff second, areSame_iff firsts seconds]

theorem entriesSame_iff : ∀ first second : List (String × Value),
    entriesSame first second = true ↔ first = second
  | [], second => by cases second <;> simp [entriesSame]
  | (key, first) :: firsts, second => by
    cases second with
    | nil => simp [entriesSame]
    | cons entry seconds =>
      simp [entriesSame, first.isSame_iff entry.2, entriesSame_iff firsts seconds,
        Prod.ext_iff, and_assoc]

end

instance : DecidableEq Value := fun first second =>
  decidable_of_iff _ (first.isSame_iff second)

/-- The integers of the format. -/
def isInteger (value : Int) : Bool :=
  -(Int.pow 2 63) ≤ value && value < Int.pow 2 63

end PanelBoard.Toml
