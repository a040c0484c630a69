import PanelBoard.Dashboard.Markup
import PanelBoard.Json.Printer
import PanelBoard.Region.Store

/-!
# Pages

What the dashboard shows of a store: one page with all regions, and the status
and the regions as data. Ids and the title are escaped; the content of a region
is markup and stands as it is.
-/

namespace PanelBoard.Dashboard

/-- The version that the status gives. -/
def version : String := "0.1.0"

/-- A region on the page. -/
def division (region : Region.Snapshot) : List Char :=
  "<div id=\"".toList ++ escape region.id.toList ++ "\">".toList ++ region.content.toList ++
    "</div>\n".toList

/-- What stands in front of the title. -/
def pageStart : List Char :=
  "<!DOCTYPE html>\n<html>\n<head>\n<meta charset=\"utf-8\">\n<title>".toList

/-- What stands between the title and the regions. -/
def pageMiddle : List Char :=
  "</title>\n</head>\n<body>\n".toList

/-- What stands behind the regions. -/
def pageEnd : List Char :=
  "</body>\n</html>\n".toList

/-- The page with all regions. -/
def page (title : String) (regions : List Region.Snapshot) : String :=
  String.ofList
    (pageStart ++ escape title.toList ++ pageMiddle ++ regions.flatMap division ++ pageEnd)

/-- The status of a dashboard with a number of regions. -/
def statusValue (regions : Nat) : Json.Value :=
  .object [("version", .text version), ("status", .text "operational"),
    ("regions", .count regions)]

/-- A region as data. -/
def regionValue (region : Region.Snapshot) : Json.Value :=
  .object [("id", .text region.id), ("content", .text region.content),
    ("updates", .count region.updates)]

/-- All regions as data. -/
def regionsValue (regions : List Region.Snapshot) : Json.Value :=
  .list (regions.map regionValue)

end PanelBoard.Dashboard
