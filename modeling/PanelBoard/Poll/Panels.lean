import PanelBoard.Config.Schema
import PanelBoard.Poll.Board

/-!
# Boards of configured panels

A configuration sets up a board: its base URL, its failure message and one loop
per panel. Panels are started in order, and the first one that cannot be started
ends the start.
-/

namespace PanelBoard.Poll

namespace Board

/-- The empty board of a configuration. -/
def ofConfig (config : Config) (display : Display) : Except SetupError Board :=
  match Url.parse config.client.baseUrl with
  | .error cause => .error (.invalidUrl config.client.baseUrl cause)
  | .ok base => .ok { base, failureMessage := config.failureMessage, display }

/-- Start panels in order up to the first that cannot be started. The loops
started before it go on. -/
def startPanels (network : Nat → Transport) :
    List Config.Panel → Board → Except SetupError (List Request) × Board
  | [], board => (.ok [], board)
  | panel :: rest, board =>
    match board.startPoll panel.url panel.target panel.refresh (network board.loops.length) with
    | (.error cause, board) => (.error cause, board)
    | (.ok request, board) =>
      match startPanels network rest board with
      | (.error cause, board) => (.error cause, board)
      | (.ok requests, board) => (.ok (request :: requests), board)

end Board

/-- The store with the regions of all panels. -/
def registerPanels (panels : List Config.Panel) (regions : Region.Store) : Region.Store :=
  panels.foldl (fun regions panel =>
    regions.register panel.target (panel.initialContent.getD "")) regions

/-- The board of a configuration with its panels registered and started. -/
def startConfigured (network : Nat → Transport) (config : Config) :
    Except SetupError Board := do
  let display : Display := { regions := registerPanels config.panels {} }
  let board ← Board.ofConfig config display
  match board.startPanels network config.panels with
  | (.error cause, _) => .error cause
  | (.ok _, board) => .ok board

end PanelBoard.Poll
