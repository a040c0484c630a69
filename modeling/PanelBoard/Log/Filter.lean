import PanelBoard.Log
import PanelBoard.Text.Blank
import PanelBoard.Text.Digit
import PanelBoard.Text.Split

/-!
# Log filters

A filter is a list of directives separated by commas, each of which lets the
events of some sources through from a level on. The directive for the longest
name counts, of equal names the last one.
-/

namespace PanelBoard.Log

open PanelBoard.Text

/-- How much passes: 0 nothing, 1 errors, up to 5 for everything. -/
abbrev Verbosity := Nat

/-- The verbosity that lets a level pass. -/
def Level.verbosity : Level → Verbosity
  | .error => 1
  | .warn => 2
  | .info => 3
  | .debug => 4
  | .trace => 5

/-- The names of verbosities. -/
def verbosityNames : List (String × Verbosity) :=
  [("", 1), ("off", 0), ("error", 1), ("warn", 2), ("info", 3), ("debug", 4), ("trace", 5)]

/-- A verbosity by its number or its name in any case. -/
def verbosity? (text : List Char) : Option Verbosity :=
  match numeral? 10 text with
  | some number => if number ≤ 5 then some number else none
  | none => verbosityNames.lookup (String.ofList (text.map Char.toLower))

/-- A directive: the front of the source names it is about, and what passes. -/
structure Directive where
  source : List Char
  verbosity : Verbosity
  deriving Repr, DecidableEq

/-- Read a directive: a verbosity for every source, a source of which everything
passes, or a source and a verbosity. -/
def Directive.parse? (text : List Char) : Option Directive :=
  match cutBefore (· == '=') (trimBoth isWhiteSpace text) with
  | (name, []) =>
    match verbosity? name with
    | some verbosity => some ⟨[], verbosity⟩
    | none => some ⟨name, 5⟩
  | (source, _ :: level) => (verbosity? level).map fun verbosity => ⟨source, verbosity⟩

/-- The directives of a filter. One that cannot be read is passed over; without
any, errors pass. -/
def directives (filter : String) : List Directive :=
  let parts := (splitOn (· == ',') filter.toList).filter (!·.isEmpty)
  match parts.filterMap Directive.parse? with
  | [] => [⟨[], 1⟩]
  | found => found

/-- What passes of a source. -/
def verbosityOf (source : List Char) (directives : List Directive) : Verbosity :=
  let matching := directives.filter fun directive => directive.source.isPrefixOf source
  let better (best : Option Directive) (directive : Directive) : Option Directive :=
    match best with
    | some other =>
      if other.source.length ≤ directive.source.length then some directive else best
    | none => some directive
  match matching.foldl better none with
  | some directive => directive.verbosity
  | none => 0

/-- The name under which the board itself logs. -/
def boardSource : List Char := "panel_poller".toList

/-- Does the board's log show a level when it is configured with `configured`? -/
def isShown (configured : String) (level : Level) : Bool :=
  level.verbosity ≤ verbosityOf boardSource (directives (filterDirective configured))

end PanelBoard.Log
