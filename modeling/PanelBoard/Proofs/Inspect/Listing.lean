import PanelBoard.Proofs.Inspect.Identifiers

/-!
# The listing that the inspector prints

The dashboard writes its regions as data, and the inspector reads them, puts the keys into
order and writes them again. Nothing is lost on the way: what is printed reads as the
listing of the store, whatever characters and counts are in it.
-/

namespace PanelBoard.Inspect

open PanelBoard.Text PanelBoard.Url PanelBoard.Url.Percent PanelBoard.Dashboard PanelBoard.Region

/-- The command for all regions of the dashboard at an address, with slashes behind it. -/
def listingCommand (written : List Char) (slashes : Nat) : Command where
  url := String.ofList ("http://".toList ++ (written ++ List.replicate slashes '/'))
  query := .regions

/-- A region as it is printed: its three members, by their keys. -/
def printedValue (region : Snapshot) : Json.Value :=
  .object [("content", .text region.content), ("id", .text region.id),
    ("updates", .count region.updates)]

/-! ## Values in order -/

theorem normalizeList_eq_map (elements : List Json.Value) :
    Json.Value.normalizeList elements = elements.map Json.Value.normalize := by
  induction elements with
  | nil => rfl
  | cons element rest ih => rw [Json.Value.normalizeList, ih, List.map_cons]

/-- The members of a region are put in the order of their keys. -/
theorem normalize_regionValue (region : Snapshot) :
    (regionValue region).normalize = printedValue region :=
  rfl

theorem normalize_regionsValue (listed : List Snapshot) :
    (regionsValue listed).normalize = .list (listed.map printedValue) := by
  rw [regionsValue, Json.Value.normalize, normalizeList_eq_map, List.map_map]
  exact congrArg _ (List.map_congr_left fun region _ => normalize_regionValue region)

theorem printedValues_fit (listed : List Snapshot) :
    (Json.Value.list (listed.map printedValue)).Fits Json.nestingLimit := by
  intro element member
  obtain ⟨region, -, rfl⟩ := List.mem_map.mp member
  exact Json.fits_object rfl

/-- What is shown of a listing that was sent as data reads as the listing. -/
theorem exists_showData (listed : List Snapshot) :
    ∃ output, showData (Site.dataReply (regionsValue listed)) = .done output "" ∧
      Json.parse? output = some (.list (listed.map printedValue)) := by
  have received : Json.parse? (Site.dataReply (regionsValue listed)).body =
      some (regionsValue listed) := Json.parse?_compact (regionsValue_fits listed)
  refine ⟨_, ?_, Json.parse?_pretty (printedValues_fit listed)⟩
  have ok : (Site.dataReply (regionsValue listed)).status = .ok := rfl
  simp only [showData, ok, received, normalize_regionsValue, if_true]

/-! ## The listing as a URL -/

section Run

variable {written : List Char} {authority : Authority} {slashes : Nat} {arguments : List String}

/-- The URL that is asked is that of the regions. -/
theorem parse_listingCommand (address : IsAddress written authority) (slashes : Nat) :
    Url.parse (listingCommand written slashes).urlText =
      .ok (below authority "regions".toList) := by
  have text : (listingCommand written slashes).urlText =
      trimSlashes (listingCommand written slashes).url ++ "/regions" := rfl
  have trimmed : trimSlashes (listingCommand written slashes).url = _ :=
    trimSlashes_address address slashes
  have joined : String.ofList ("http://".toList ++ written) ++ "/regions" =
      String.ofList ("http://".toList ++ (written ++ '/' :: "regions".toList)) := by
    apply String.toList_inj.mp
    simp
  have counted : keptEnd "regions".toList = "regions".toList := by decide
  rw [text, trimmed, joined, parse_below address, counted]

theorem path_listing (authority : Authority) :
    (below authority "regions".toList).path = .segments ["regions".toList] := by
  rw [path_below]
  decide

/-- What the inspector prints of all regions is the store. Read as data it is the list of
the regions that the store lists, in their order, each with its content, its id and its
number of updates and nothing else. -/
theorem listing_printed (address : IsAddress written authority)
    (sendable : Http.Uri.isSendableHost authority.host = true)
    (asked : parse arguments = .run (listingCommand written slashes))
    (short : ∀ url, Url.parse (listingCommand written slashes).urlText = .ok url →
      url.text.utf8ByteSize ≤ Http.Uri.maxLength) (site : Site) :
    ∃ output, run (siteNetwork (String.ofList authority.renderHost) site) arguments =
        .done output "" ∧
      Json.parse? output = some (.list (site.regions.snapshot.map printedValue)) := by
  have read := parse_listingCommand address slashes
  have replied : answerAt site (["regions".toList].flatMap ('/' :: ·)) =
      Site.dataReply (regionsValue site.regions.snapshot) := rfl
  have shown := run_below sendable asked read (path_listing authority) (List.cons_ne_nil _ _)
    (short _ read) site
  rw [replied] at shown
  rw [shown]
  exact exists_showData site.regions.snapshot

end Run

/-- A region without any text, and one with a quotation mark, a backslash, control characters,
a character outside the first plane and the largest count. -/
def hostileStore : Store :=
  { cells := [⟨"", "", 0, 1⟩, ⟨"\"a\\", "\x00\n𝄞", 18446744073709551615, 0⟩] }

/-- The hostile store asked for at the usual address. -/
theorem listing_printed_hostile :
    ∃ output, run (siteNetwork "127.0.0.1:7658" { regions := hostileStore }) ["regions"] =
        .done output "" ∧
      Json.parse? output = some (.list [
        .object [("content", .text "\x00\n𝄞"), ("id", .text "\"a\\"),
          ("updates", .number 18446744073709551615)],
        .object [("content", .text ""), ("id", .text ""), ("updates", .number 0)]]) := by
  have address : IsAddress "127.0.0.1:7658".toList
      { host := .ipv4 0x7F000001, port := some 7658 } :=
    ⟨List.all_iff_forall_prop.mp (by decide), List.all_iff_forall_prop.mp (by decide),
      by decide +kernel⟩
  have asked : parse ["regions"] = .run (listingCommand "127.0.0.1:7658".toList 0) := rfl
  have short : ∀ url, Url.parse (listingCommand "127.0.0.1:7658".toList 0).urlText = .ok url →
      url.text.utf8ByteSize ≤ Http.Uri.maxLength := by
    intro url read
    rw [parse_listingCommand address] at read
    cases read
    decide +kernel
  have listed : hostileStore.snapshot =
      [⟨"\"a\\", "\x00\n𝄞", 18446744073709551615⟩, ⟨"", "", 0⟩] := by
    simp [hostileStore, Store.snapshot, List.mergeSort, Cell.snapshot]
  obtain ⟨output, printed, reads⟩ := listing_printed address rfl asked short
    { regions := hostileStore }
  exact ⟨output, printed, reads.trans (by rw [listed]; rfl)⟩

end PanelBoard.Inspect
