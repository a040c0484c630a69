import Mathlib.Data.Bool.AllAny
import PanelBoard.Dashboard.Router
import PanelBoard.Proofs.Dashboard.Markup
import PanelBoard.Proofs.Http.Target
import PanelBoard.Proofs.Json.RoundTrip
import PanelBoard.Proofs.Region.History

/-!
# Addresses of regions

The page, the status and the data about all regions come from one listing, and
each region of the listing is had by every spelling of its id, the id of no other.
-/

namespace PanelBoard.Dashboard

open PanelBoard.Text PanelBoard.Region PanelBoard.Url.Percent

/-- Does the site answer a GET of a target with the status and the body? -/
def Site.Gives (site : Site) (target : String) (status : Status) (body : String) : Prop :=
  ∃ reply, site.answerText? "GET" target = some reply ∧ reply.status = status ∧ reply.body = body

/-- The target of a region whose id is spelt in the segment. -/
def regionTarget (segment : List Char) : String :=
  String.ofList ("/regions/".toList ++ segment)

/-- May the character stand in a segment of a path that is sent? -/
def isSegmentChar (c : Char) : Bool :=
  Http.Uri.isPathChar c && c != '/'

/-- A division of the page that carries a region: its id as an attribute, read as
markup, and its content as it is. -/
def Carries (markup : List Char) (region : Snapshot) : Prop :=
  ∃ value, markup = "<div id=\"".toList ++ value ++ "\">".toList ++
      region.content.toList ++ "</div>\n".toList ∧
    '"' ∉ value ∧ unescape value = region.id.toList

/-- The three views of a site are of one listing. -/
structure Site.Shows (site : Site) (listed : List Snapshot) : Prop where
  regions : ∃ body, site.Gives "/regions" .ok body ∧
    Json.parse? body = some (regionsValue listed)
  status : ∃ body, site.Gives "/status" .ok body ∧
    Json.parse? body = some (statusValue listed.length)
  index : ∃ divisions, List.Forall₂ Carries divisions listed ∧
    site.Gives "/" .ok (String.ofList
      (pageStart ++ escape site.title.toList ++ pageMiddle ++ divisions.flatten ++ pageEnd))

/-- Regions are had by the spellings of their ids: each of the listing by all, no other
by any. A segment that spells no text is refused. -/
structure Site.Addresses (site : Site) (listed : List Snapshot) : Prop where
  found : ∀ region ∈ listed, ∀ segment, region.id ≠ "" →
    Spells (Utf8.bytes region.id) segment →
    (regionTarget segment).utf8ByteSize ≤ Http.Uri.maxLength →
    site.Gives (regionTarget segment) .ok region.content
  missing : ∀ id segment, id ∉ listed.map Snapshot.id → id ≠ "" →
    Spells (Utf8.bytes id) segment →
    (regionTarget segment).utf8ByteSize ≤ Http.Uri.maxLength →
    site.Gives (regionTarget segment) .notFound ""
  malformed : ∀ segment, segment ≠ [] → (∀ c ∈ segment, isSegmentChar c = true) →
    (∀ text, Utf8.bytes text ≠ decode segment) →
    (regionTarget segment).utf8ByteSize ≤ Http.Uri.maxLength →
    site.Gives (regionTarget segment) .badRequest "Invalid URL: Invalid UTF-8 in \x60id\x60"

/-! ## Targets -/

/-- A path within the limit is a target of its own. -/
theorem parse?_path {path : List Char} (sent : ∀ c ∈ path, Http.Uri.isPathChar c = true)
    (short : (String.ofList ('/' :: path)).utf8ByteSize ≤ Http.Uri.maxLength) :
    Http.Uri.parse? (String.ofList ('/' :: path)) = some { path := '/' :: path } := by
  have all : ∀ c ∈ '/' :: path, Http.Uri.isPathChar c = true :=
    List.forall_mem_cons.mpr ⟨rfl, sent⟩
  have taken := @Http.Uri.pathAndQuery?_parts ('/' :: path) none none all nofun
  rw [Url.renderOptional, Url.renderOptional, List.append_nil, List.append_nil] at taken
  rw [Http.Uri.parse?, if_neg (Nat.not_lt.mpr short), String.toList_ofList]
  simp only [taken]
  rfl

/-- A path of one segment below the regions is the route of a region. -/
theorem ofPath?_region {segment : List Char} (nonempty : segment ≠ [])
    (whole : ∀ c ∈ segment, (c == '/') = false) :
    Route.ofPath? ("/regions/".toList ++ segment) = some (.region segment) := by
  have pieces : splitOn (· == '/') ("/regions/".toList ++ segment) =
      [[], "regions".toList, segment] := by
    have first : ∀ c ∈ ([] : List Char), (c == '/') = false := nofun
    have second : ∀ c ∈ "regions".toList, (c == '/') = false :=
      List.all_iff_forall_prop.mp (by decide)
    calc splitOn (· == '/') ("/regions/".toList ++ segment)
        = splitOn (· == '/') ([] ++ '/' :: ("regions".toList ++ '/' :: segment)) := rfl
      _ = [[], "regions".toList, segment] := by
        rw [splitOn_append_cons first rfl, splitOn_append_cons second rfl, splitOn_of_free whole]
  rw [Route.ofPath?, pieces]
  exact if_pos ⟨rfl, nonempty⟩

variable {site : Site}

/-- A GET below the regions is answered about the segment. -/
theorem answerText?_region {segment : List Char} (nonempty : segment ≠ [])
    (sent : ∀ c ∈ segment, isSegmentChar c = true)
    (short : (regionTarget segment).utf8ByteSize ≤ Http.Uri.maxLength) :
    site.answerText? "GET" (regionTarget segment) = some (site.regionReply segment) := by
  have paths : ∀ c ∈ "regions/".toList ++ segment, Http.Uri.isPathChar c = true := by
    intro c member
    rcases List.mem_append.mp member with fixed | own
    · have checked : ∀ c ∈ "regions/".toList, Http.Uri.isPathChar c = true :=
        List.all_iff_forall_prop.mp (by decide)
      exact checked c fixed
    · exact (Bool.and_eq_true_iff.mp (sent c own)).1
  have whole : ∀ c ∈ segment, (c == '/') = false := by
    intro c member
    simpa [isSegmentChar] using (Bool.and_eq_true_iff.mp (sent c member)).2
  have target : Http.Uri.parse? (regionTarget segment) =
      some { path := "/regions/".toList ++ segment } := parse?_path paths short
  have method : Site.isMethod "GET" = true := by decide
  simp only [Site.answerText?, method, target, Site.answer, Http.Uri.routedPath]
  rw [if_neg (by simp), ofPath?_region nonempty whole]
  rfl

/-! ## Spellings -/

theorem isSegmentChar_of_spells {bytes : List UInt8} {segment : List Char}
    (spells : Spells bytes segment) : ∀ c ∈ segment, isSegmentChar c = true := by
  intro c member
  rcases spells.chars c member with unreserved | rfl
  · have checked : ∀ n < 0x80, isUnreserved (Char.ofNat n) = true →
        isSegmentChar (Char.ofNat n) = true := by decide
    exact of_isAsciiChar (fun c => isUnreserved c = true → isSegmentChar c = true)
      checked (isAsciiChar_of_isUnreserved unreserved) unreserved
  · rfl

theorem bytes_ne_nil {id : String} (nonempty : id ≠ "") : Utf8.bytes id ≠ [] := by
  intro empty
  have same : Utf8.bytes id = Utf8.bytes "" := empty
  exact nonempty (Utf8.bytes_injective same)

/-- Two texts never share a spelling. -/
theorem eq_of_spells {id other : String} {segment : List Char}
    (spells : Spells (Utf8.bytes id) segment) (also : Spells (Utf8.bytes other) segment) :
    id = other :=
  Utf8.bytes_injective (spells.decode.symm.trans also.decode)

/-- A segment is read as the text whose bytes it stands for. -/
theorem idOfSegment?_eq_some_iff {id : String} {segment : List Char} :
    idOfSegment? segment = some id ↔ decode segment = Utf8.bytes id := by
  constructor
  · intro read
    obtain ⟨cs, decoded, rfl⟩ := Option.map_eq_some_iff.mp read
    rw [Utf8.bytes, String.toList_ofList, Utf8.decode?_eq_some_iff.mp decoded]
  · intro decoded
    rw [idOfSegment?, decoded, Utf8.bytes, Utf8.decode?_encode, Option.map_some,
      String.ofList_toList]

/-- A segment that is read as an id gets what the store has under it. -/
theorem regionReply_of_named {id : String} {segment : List Char}
    (named : idOfSegment? segment = some id) : site.regionReply segment =
      (site.regions.content? id).elim { status := .notFound } Site.markupReply := by
  simp only [Site.regionReply, named]
  cases site.regions.content? id <;> rfl

/-- A spelling gets what the store has under the text. -/
theorem answerText?_of_spells {id : String} {segment : List Char} (nonempty : id ≠ "")
    (spells : Spells (Utf8.bytes id) segment)
    (short : (regionTarget segment).utf8ByteSize ≤ Http.Uri.maxLength) :
    site.answerText? "GET" (regionTarget segment) =
      some ((site.regions.content? id).elim { status := .notFound } Site.markupReply) := by
  rw [answerText?_region (spells.ne_nil (bytes_ne_nil nonempty)) (isSegmentChar_of_spells spells)
    short, regionReply_of_named (idOfSegment?_eq_some_iff.mpr spells.decode)]

/-! ## Views -/

theorem division_carries (region : Snapshot) : Carries (division region) region :=
  ⟨escape region.id.toList, rfl, not_mem_escape (by decide) (by decide), unescape_escape _⟩

theorem regionsValue_fits (listed : List Snapshot) :
    (regionsValue listed).Fits Json.nestingLimit := by
  intro element member
  obtain ⟨region, -, rfl⟩ := List.mem_map.mp member
  exact Json.fits_object rfl

theorem statusValue_fits (count : Nat) : (statusValue count).Fits Json.nestingLimit :=
  Json.fits_object rfl

/-! ## Sites of stores -/

section Store

variable {calls : List Call} {log : List Log.Event} {store : Store}

/-- The views of a store are of its listing. -/
theorem shows_snapshot (history : Store.History calls log store) (title : String) :
    Site.Shows { title, regions := store } store.snapshot where
  regions := ⟨_, ⟨_, rfl, rfl, rfl⟩, Json.parse?_compact (regionsValue_fits _)⟩
  status := by
    have size : store.size = store.snapshot.length := by
      rw [Store.size_of_perm history.settled.1, Store.snapshot_of_perm history.settled.1,
        List.length_map]
    refine ⟨_, ⟨_, rfl, rfl, rfl⟩, ?_⟩
    rw [← size]
    exact Json.parse?_compact (statusValue_fits _)
  index := by
    refine ⟨store.snapshot.map division, ?_, _, rfl, rfl, ?_⟩
    · exact List.forall₂_map_left_iff.mpr (List.forall₂_same.mpr fun region _ =>
        division_carries region)
    · rw [← List.flatMap_def]
      rfl

/-- The regions of a store are had by the spellings of their ids. -/
theorem addresses_snapshot (history : Store.History calls log store) (title : String) :
    Site.Addresses { title, regions := store } store.snapshot where
  found := by
    intro region listed segment nonempty spells short
    have same := history.settled.1
    obtain ⟨name, named, rfl⟩ := List.mem_map.mp (Store.snapshot_of_perm same ▸ listed)
    have content : store.content? (Snapshot.after calls name).id =
        some (Snapshot.after calls name).content := by
      have got : store.get? name = some (Snapshot.after calls name) :=
        (Store.get?_of_perm same name).trans (if_pos named)
      rw [Store.content?_eq_map_get?]
      exact congrArg (Option.map Snapshot.content) got
    refine ⟨_, answerText?_of_spells nonempty spells short, ?_⟩
    rw [content]
    exact ⟨rfl, rfl⟩
  missing := by
    intro id segment unlisted nonempty spells short
    have same := history.settled.1
    rw [Store.ids_snapshot_of_perm same] at unlisted
    have content : store.content? id = none := by
      rw [Store.content?_eq_map_get?, Store.get?_of_perm same, if_neg unlisted, Option.map_none]
    refine ⟨_, answerText?_of_spells nonempty spells short, ?_⟩
    rw [content]
    exact ⟨rfl, rfl⟩
  malformed := by
    intro segment nonempty sent noText short
    have unread : idOfSegment? segment = none := by
      rw [Option.eq_none_iff_forall_ne_some]
      intro text read
      exact noText text (idOfSegment?_eq_some_iff.mp read).symm
    refine ⟨_, answerText?_region nonempty sent short, ?_⟩
    rw [Site.regionReply, unread]
    exact ⟨rfl, rfl⟩

/-- The views of a dashboard agree and every region is addressable. The listing is in
the order in which regions were first named; each region of it is had by every
spelling of its id, and no spelling is of two ids. -/
theorem regions_addressable (history : Store.History calls log store) (title : String) :
    store.snapshot.map Snapshot.id = namedBy calls ∧
    Site.Shows { title, regions := store } store.snapshot ∧
    Site.Addresses { title, regions := store } store.snapshot ∧
    (∀ id other segment, Spells (Utf8.bytes id) segment → Spells (Utf8.bytes other) segment →
      id = other) :=
  ⟨Store.ids_snapshot_of_perm history.settled.1, shows_snapshot history title,
    addresses_snapshot history title, fun _ _ _ => eq_of_spells⟩

end Store

/-- A region whose id holds a slash, a space, a percent sign and a letter outside ASCII,
asked for by a spelling in both cases of digits that also encodes a letter. -/
theorem regions_addressable_reserved :
    ∃ log store, Store.History [.register "a/b %é" "<p>", .write "c" "1"] log store ∧
      Site.Gives { title := "Q&A", regions := store }
        (regionTarget "%61%2fb%20%25%C3%a9".toList) .ok "<p>" ∧
      Site.Gives { title := "Q&A", regions := store } (regionTarget "d".toList) .notFound "" ∧
      Site.Shows { title := "Q&A", regions := store } [⟨"a/b %é", "<p>", 0⟩, ⟨"c", "1", 1⟩] := by
  have history := (Store.History.new.call (.register "a/b %é" "<p>")).call (.write "c" "1")
  obtain ⟨-, shows, addresses, -⟩ := regions_addressable history "Q&A"
  have listed : _ = [Snapshot.mk "a/b %é" "<p>" 0, ⟨"c", "1", 1⟩] :=
    (Store.snapshot_of_perm history.settled.1).trans (by decide +kernel)
  rw [listed] at shows addresses
  have spells : Spells (Utf8.bytes "a/b %é") "%61%2fb%20%25%C3%a9".toList :=
    .coded rfl rfl (.coded rfl rfl (.plain (c := 'b') rfl (.coded rfl rfl (.coded rfl rfl
      (.coded rfl rfl (.coded rfl rfl .nil))))))
  refine ⟨_, _, history, ?_, ?_, shows⟩
  · exact addresses.found ⟨"a/b %é", "<p>", 0⟩ (by decide) _ (by decide) spells (by decide)
  · exact addresses.missing "d" _ (by decide) (by decide) (.plain (c := 'd') rfl .nil) (by decide)

end PanelBoard.Dashboard
