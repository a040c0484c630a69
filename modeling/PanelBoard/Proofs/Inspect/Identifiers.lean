import Mathlib.Data.Bool.AllAny
import Mathlib.Data.List.Basic
import PanelBoard.Inspect.Run
import PanelBoard.Proofs.Dashboard.Addressing
import PanelBoard.Proofs.Url.Below

/-!
# Identifiers that the inspector can ask for

The inspector puts the id of a region behind a slash and has the whole read as a
URL. What of the id separates, is left out or spells bytes is read so there, and
the dashboard is asked about something else. Only an id that stands for itself
reaches its region.
-/

namespace PanelBoard.Inspect

open PanelBoard.Text PanelBoard.Url PanelBoard.Url.Percent PanelBoard.Dashboard PanelBoard.Region

/-- A text that stands for itself as the last segment of a URL: nothing of it separates
or is left out, and it neither is a dot segment nor spells bytes. -/
structure IsLiteral (id : String) : Prop where
  plain : ∀ c ∈ id.toList, c ∉ ['/', '\\', '?', '#', '\t', '\n', '\r']
  ends : ∀ c ∈ id.toList.getLast?, 0x20 < c.toNat
  named : id ≠ "." ∧ id ≠ ".."
  spelt : decode id.toList = Utf8.bytes id

/-- The command for a region of the dashboard at an address, with slashes behind it. -/
def regionCommand (written : List Char) (slashes : Nat) (id : String) : Command where
  url := String.ofList ("http://".toList ++ (written ++ List.replicate slashes '/'))
  query := .region id

/-- The URL that is asked for an id. -/
def regionUrl (authority : Authority) (id : String) : Url :=
  below authority ("regions/".toList ++ keptEnd id.toList)

/-- What of an id is read as path. -/
def pathPart (id : String) : List Char :=
  (cutBefore (fun c => c == '?' || c == '#') (keptEnd id.toList)).1

/-- The segments of the path that is asked for an id. -/
def regionSegments (id : String) : List (List Char) :=
  enterAll .special ["regions".toList]
    ((splitOn (isSlash .special) (pathPart id)).map (encode inPath))

/-- Is the path that is asked for an id that of its region? -/
def Reaches (id : String) : Prop :=
  ∃ segment, regionSegments id = ["regions".toList, segment] ∧ segment ≠ [] ∧
    decode segment = Utf8.bytes id

/-- The answer to a GET of a path. -/
def answerAt (site : Site) (path : List Char) : Reply :=
  match Route.ofPath? path with
  | none => { status := .notFound }
  | some route => site.reply route

variable {written : List Char} {authority : Authority}

/-! ## URLs -/

/-- Slashes at the end of a URL are left out. -/
theorem trimSlashes_append {front : List Char} (ends : ∀ c ∈ front.getLast?, (c == '/') = false)
    (slashes : Nat) :
    trimSlashes (String.ofList (front ++ List.replicate slashes '/')) = String.ofList front := by
  have slashed : ∀ c ∈ List.replicate slashes '/', (c == '/') = true := by
    intro c member
    rw [List.eq_of_mem_replicate member]
    rfl
  have stays : front.reverse.dropWhile (· == '/') = front.reverse := by
    rw [← List.head?_reverse] at ends
    cases reversed : front.reverse with
    | nil => rfl
    | cons last others =>
        have plain := ends last (by rw [reversed]; rfl)
        exact List.dropWhile_cons_of_neg (by rw [plain]; exact Bool.false_ne_true)
  rw [trimSlashes, String.toList_ofList, List.reverse_append, List.reverse_replicate,
    List.dropWhile_append_of_pos slashed, stays, List.reverse_reverse]

/-- The slashes behind an address do not matter. -/
theorem trimSlashes_address (address : IsAddress written authority) (slashes : Nat) :
    trimSlashes (String.ofList ("http://".toList ++ (written ++ List.replicate slashes '/'))) =
      String.ofList ("http://".toList ++ written) := by
  have ends : ∀ c ∈ ("http://".toList ++ written).getLast?, (c == '/') = false := by
    intro last ending
    rw [List.getLast?_append_of_ne_nil _ address.ne_nil] at ending
    have plain := address.plain last (List.mem_of_getLast? ending)
    rw [beq_eq_false_iff_ne]
    rintro rfl
    cases plain
  have grouped : String.ofList ("http://".toList ++ (written ++ List.replicate slashes '/')) =
      String.ofList (("http://".toList ++ written) ++ List.replicate slashes '/') :=
    congrArg String.ofList (List.append_assoc _ _ _).symm
  rw [grouped, trimSlashes_append ends]

theorem urlText_regionCommand (address : IsAddress written authority) (slashes : Nat)
    (id : String) :
    (regionCommand written slashes id).urlText =
      String.ofList ("http://".toList ++ (written ++ '/' :: ("regions/".toList ++ id.toList))) := by
  have text : (regionCommand written slashes id).urlText =
      trimSlashes (regionCommand written slashes id).url ++ ("/regions/" ++ id) := rfl
  have trimmed : trimSlashes (regionCommand written slashes id).url = _ :=
    trimSlashes_address address slashes
  rw [text, trimmed]
  apply String.toList_inj.mp
  simp

/-- The URL that is asked is below the regions of the dashboard. -/
theorem parse_regionCommand (address : IsAddress written authority) (slashes : Nat)
    (id : String) :
    Url.parse (regionCommand written slashes id).urlText = .ok (regionUrl authority id) := by
  have visible : ∀ c ∈ "regions/".toList, 0x20 < c.toNat :=
    List.all_iff_forall_prop.mp (by decide)
  rw [urlText_regionCommand address, parse_below address,
    keptEnd_append visible (List.cons_ne_nil _ _), regionUrl]

/-- The path that is asked. -/
theorem path_regionUrl (authority : Authority) (id : String) :
    (regionUrl authority id).path = .segments (regionSegments id) := by
  have body : (cutBefore (fun c => c == '?' || c == '#')
      ("regions/".toList ++ keptEnd id.toList)).1 = "regions".toList ++ '/' :: pathPart id := rfl
  have whole : ∀ c ∈ "regions".toList, isSlash .special c = false :=
    List.all_iff_forall_prop.mp (by decide)
  have first : enter .special [] (encode inPath "regions".toList) false = ["regions".toList] := by
    decide
  rw [regionUrl, path_below, body, splitOn_append_cons whole rfl, regionSegments, List.map_cons]
  cases pieces : splitOn (isSlash .special) (pathPart id) with
  | nil => exact absurd pieces (splitOn_ne_nil _ _)
  | cons piece rest => rw [List.map_cons, enterAll, first]; exact List.cons_ne_nil _ _

theorem regionSegments_ne_nil (id : String) : regionSegments id ≠ [] :=
  enterAll_ne_nil _ (mt List.map_eq_nil_iff.mp (splitOn_ne_nil _ _))

/-- No segment holds a slash. -/
theorem slash_not_mem_regionSegments (id : String) :
    ∀ segment ∈ regionSegments id, ∀ c ∈ segment, (c == '/') = false := by
  obtain ⟨kept, added, same, known⟩ := exists_enterAll ["regions".toList]
    ((splitOn (isSlash .special) (pathPart id)).map (encode inPath))
  rw [regionSegments, same]
  refine List.forall_mem_append.mpr ⟨fun segment member => ?_, fun segment member => ?_⟩
  · rw [List.mem_singleton.mp (List.mem_of_mem_take member)]
    exact List.all_iff_forall_prop.mp (by decide)
  · rcases known segment member with own | rfl
    · obtain ⟨piece, listed, rfl⟩ := List.mem_map.mp own
      intro c within
      rcases mem_or_mem_tripleChars within with source | triple
      · have apart := (forall_mem_splitOn _ _ piece listed).2 c source
        exact (Bool.or_eq_false_iff.mp apart).1
      · have checked : ∀ c ∈ tripleChars, (c == '/') = false :=
          List.all_iff_forall_prop.mp (by decide)
        exact checked c triple
    · nofun

/-- The path that is asked is routed by its segments. -/
theorem splitOn_regionSegments (id : String) :
    splitOn (· == '/') ((regionSegments id).flatMap ('/' :: ·)) = [] :: regionSegments id :=
  splitOn_flatMap rfl (slash_not_mem_regionSegments id)

/-! ## Literal identifiers -/

section Literal

variable {id : String}

theorem IsLiteral.ne (literal : IsLiteral id) {c mark : Char} (member : c ∈ id.toList)
    (listed : mark ∈ ['/', '\\', '?', '#', '\t', '\n', '\r']) : c ≠ mark :=
  fun same => literal.plain c member (same ▸ listed)

/-- A literal id is one segment of the path, encoded. -/
theorem reaches_of_isLiteral (given : id ≠ "") (literal : IsLiteral id) : Reaches id := by
  have decoded : decode (encode inPath id.toList) = Utf8.bytes id :=
    (decode_encode keepsTriples_inPath _).trans literal.spelt
  have whole : keptEnd id.toList = id.toList :=
    keptEnd_eq_self_iff.mpr ⟨literal.ends, fun c member listed => literal.plain c member
      (List.mem_of_mem_drop (i := 4) listed)⟩
  have uncut : ∀ c ∈ id.toList, (c == '?' || c == '#') = false := by
    intro c member
    rw [Bool.or_eq_false_iff, beq_eq_false_iff_ne, beq_eq_false_iff_ne]
    exact ⟨literal.ne member (by decide), literal.ne member (by decide)⟩
  have unsplit : ∀ c ∈ id.toList, isSlash .special c = false := by
    intro c member
    change (c == '/' || c == '\\') = false
    rw [Bool.or_eq_false_iff, beq_eq_false_iff_ne, beq_eq_false_iff_ne]
    exact ⟨literal.ne member (by decide), literal.ne member (by decide)⟩
  have notDouble : ¬ isDoubleDot (encode inPath id.toList) = true := by
    intro dots
    have same := decoded.symm.trans (decode_of_isDoubleDot dots)
    exact literal.named.2 (Utf8.bytes_injective same)
  have notSingle : ¬ isSingleDot (encode inPath id.toList) = true := by
    intro dot
    have same := decoded.symm.trans (decode_of_isSingleDot dot)
    exact literal.named.1 (Utf8.bytes_injective same)
  refine ⟨encode inPath id.toList, ?_, ?_, decoded⟩
  · rw [regionSegments, pathPart, whole, cutBefore_of_free uncut, splitOn_of_free unsplit]
    rw [List.map_cons, List.map_nil, enterAll, enter]
    simp only [if_neg notDouble, if_neg notSingle]
    rfl
  · intro empty
    rw [empty] at decoded
    exact bytes_ne_nil given decoded.symm

/-- An id that is not literal is not asked for: what its path ends in spells less. -/
theorem isLiteral_of_reaches (reaches : Reaches id) : IsLiteral id := by
  obtain ⟨segment, segments, nonempty, decoded⟩ := reaches
  -- What stands behind the first segment was added: dot segments only take away.
  obtain ⟨kept, added, same, known⟩ := exists_enterAll ["regions".toList]
    ((splitOn (isSlash .special) (pathPart id)).map (encode inPath))
  have new : segment ∈ added := by
    rw [regionSegments, same] at segments
    cases kept with
    | zero =>
        rw [List.take_zero, List.nil_append] at segments
        rw [segments]
        exact List.mem_cons_of_mem _ List.mem_cons_self
    | succ kept =>
        rw [List.take_succ_cons, List.take_nil] at segments
        have rest : added = [segment] := (List.cons.inj segments).2
        rw [rest]
        exact List.mem_cons_self
  obtain ⟨piece, listed, rfl⟩ := List.mem_map.mp ((known segment new).resolve_right nonempty)
  rw [decode_encode keepsTriples_inPath] at decoded
  obtain ⟨split, unsplit⟩ := forall_mem_splitOn _ _ piece listed
  obtain ⟨-, uncut, -⟩ := eq_append_of_cutBefore
    (rfl : cutBefore (fun c => c == '?' || c == '#') (keptEnd id.toList) = (pathPart id, _))
  have cut : (pathPart id).Sublist (keptEnd id.toList) := List.takeWhile_sublist _
  have counted := keptEnd_sublist id.toList
  -- The piece is a part of the id and spells it, so nothing of the id is missing from it.
  obtain rfl := eq_of_sublist_of_decode ((split.trans cut).trans counted) decoded
  have whole := counted.eq_of_length_le (split.trans cut).length_le
  obtain ⟨ends, clean⟩ := keptEnd_eq_self_iff.mp whole
  refine ⟨fun c member => ?_, ends, ⟨?_, ?_⟩, decoded⟩
  · intro listed
    have slashless := unsplit c member
    have kept := clean c member
    have stopless := uncut c (split.subset member)
    simp only [List.mem_cons, List.not_mem_nil, or_false] at listed
    rcases listed with rfl | rfl | rfl | rfl | blank
    · cases slashless
    · cases slashless
    · cases stopless
    · cases stopless
    · exact kept (by simpa using blank)
  · rintro rfl
    have empty : regionSegments "." = ["regions".toList, []] := by decide +kernel
    exact nonempty (List.cons.inj (List.cons.inj (segments.symm.trans empty)).2).1
  · rintro rfl
    have empty : regionSegments ".." = [[]] := by decide +kernel
    cases (List.cons.inj (segments.symm.trans empty)).2

end Literal

/-! ## Runs -/

section Run

variable {slashes : Nat} {id : String} {arguments : List String}

theorem answer_get (site : Site) (target : Http.Uri) :
    site.answer "GET" target = answerAt site target.routedPath := by
  rw [Site.answer, answerAt]
  cases Route.ofPath? target.routedPath <;> rfl

/-- The inspector shows the answer to a GET of the path below the address. -/
theorem run_below {command : Command} {text : List Char} {segments : List (List Char)}
    (sendable : Http.Uri.isSendableHost authority.host = true)
    (asked : parse arguments = .run command)
    (read : Url.parse command.urlText = .ok (below authority text))
    (path : (below authority text).path = .segments segments) (nonempty : segments ≠ [])
    (short : (below authority text).text.utf8ByteSize ≤ Http.Uri.maxLength) (site : Site) :
    run (siteNetwork (String.ofList authority.renderHost) site) arguments =
      command.query.present (answerAt site (segments.flatMap ('/' :: ·))) := by
  have given : (below authority text).authority = some authority := rfl
  have target := Http.Uri.parse?_text (isNormal_parse read rfl) rfl given
  rw [if_pos ⟨short, sendable⟩, path] at target
  have routed : Http.Uri.routedPath
      { scheme := some "http".toList, authority := some (Http.Uri.authorityText authority)
        path := (Path.segments segments).render
        query := (below authority text).query } = segments.flatMap ('/' :: ·) := by
    obtain ⟨segment, rest, same⟩ := List.exists_cons_of_ne_nil nonempty
    rw [same]
    rfl
  have replied : siteNetwork (String.ofList authority.renderHost) site (below authority text) =
      some (answerAt site (segments.flatMap ('/' :: ·))) := by
    have http : (below authority text).schemeText = "http" := rfl
    unfold siteNetwork
    simp only [given, target]
    rw [if_pos ⟨http, trivial⟩, answer_get, routed]
  have here : (below authority text).authority.isNone = false := rfl
  simp only [run, asked, Command.run, read, here, replied, Bool.false_eq_true, if_false]

/-- The inspector prints the answer to a GET of the path that is asked. -/
theorem run_regionCommand (address : IsAddress written authority)
    (sendable : Http.Uri.isSendableHost authority.host = true)
    (asked : parse arguments = .run (regionCommand written slashes id))
    (short : ∀ url, Url.parse (regionCommand written slashes id).urlText = .ok url →
      url.text.utf8ByteSize ≤ Http.Uri.maxLength) (site : Site) :
    run (siteNetwork (String.ofList authority.renderHost) site) arguments =
      showRegion id (answerAt site ((regionSegments id).flatMap ('/' :: ·))) :=
  have read := parse_regionCommand address slashes id
  run_below sendable asked read (path_regionUrl authority id) (regionSegments_ne_nil id)
    (short _ read) site

/-- The path of a region is answered about the region. -/
theorem answerAt_of_reaches (reaches : Reaches id) (site : Site) :
    answerAt site ((regionSegments id).flatMap ('/' :: ·)) =
      (site.regions.content? id).elim { status := .notFound } Site.markupReply := by
  obtain ⟨segment, segments, nonempty, decoded⟩ := reaches
  have route : Route.ofPath? ((regionSegments id).flatMap ('/' :: ·)) = some (.region segment) := by
    rw [Route.ofPath?, splitOn_regionSegments, segments]
    exact if_pos ⟨rfl, nonempty⟩
  rw [answerAt, route]
  exact regionReply_of_named (idOfSegment?_eq_some_iff.mpr decoded)

/-- Every page and all data have characters. -/
theorem body_ne_empty (site : Site) {route : Route} (other : ∀ segment, route ≠ .region segment) :
    (site.reply route).body ≠ "" := by
  have data (value : Json.Value) : value.compact ≠ "" := by
    intro empty
    obtain ⟨first, more, printed, -⟩ := Json.printAt_begins .compact 0 value
    rw [Json.Value.compact, printed] at empty
    have none := congrArg String.toList empty
    rw [String.toList_ofList] at none
    cases none
  cases route with
  | index =>
      intro empty
      have none := congrArg String.toList empty
      rw [Site.reply, Site.markupReply, page, String.toList_ofList] at none
      cases none
  | status => exact data _
  | regions => exact data _
  | region segment => exact absurd rfl (other segment)

/-- A path of three parts is routed to a region. -/
theorem reaches_of_routed {segment : List Char} (decoded : decode segment = Utf8.bytes id)
    (routed : Route.ofPath? ((regionSegments id).flatMap ('/' :: ·)) = some (.region segment)) :
    Reaches id := by
  rw [Route.ofPath?, splitOn_regionSegments] at routed
  split at routed
  · cases routed
  · split at routed
    · cases routed
    · split at routed
      · cases routed
      · cases routed
  next name own segments =>
    split at routed
    next named =>
      cases routed
      obtain ⟨rfl, nonempty⟩ := named
      exact ⟨segment, (List.cons.inj segments).2, nonempty, decoded⟩
    next => cases routed
  · cases routed

/-- Only the path of a region gets its content if that is empty and no other region is
there. -/
theorem reaches_of_empty {title : String}
    (shown : showRegion id (answerAt { title, regions := ({} : Store).register id "" }
      ((regionSegments id).flatMap ('/' :: ·))) = .done ("" ++ "\n") "") : Reaches id := by
  unfold showRegion at shown
  split at shown
  next ok =>
    have empty := String.append_left_inj _ |>.mp (Result.done.inj shown).1
    unfold answerAt at ok empty
    split at ok
    next => cases ok
    next route routed =>
      simp only [routed] at empty
      cases route with
      | index => exact absurd empty (body_ne_empty _ nofun)
      | status => exact absurd empty (body_ne_empty _ nofun)
      | regions => exact absurd empty (body_ne_empty _ nofun)
      | region segment =>
          rw [Site.reply, Site.regionReply] at ok
          split at ok
          next => cases ok
          next name named =>
            split at ok
            next => cases ok
            next content found =>
              have same : id = name := by
                by_contra different
                rw [Store.content?_eq_map_get?, Store.get?_register, if_neg different] at found
                cases found
              exact reaches_of_routed (idOfSegment?_eq_some_iff.mp (same ▸ named)) routed
  next => exact absurd (Result.done.inj shown).1 (by decide)

/-- The inspector prints what the region has, whatever the dashboard holds, exactly if the
id is literal: nothing of an id is encoded on the way into the URL. -/
theorem region_printed_iff (address : IsAddress written authority)
    (sendable : Http.Uri.isSendableHost authority.host = true) (given : id ≠ "")
    (asked : parse arguments = .run (regionCommand written slashes id))
    (short : ∀ url, Url.parse (regionCommand written slashes id).urlText = .ok url →
      url.text.utf8ByteSize ≤ Http.Uri.maxLength) :
    (∀ site content, site.regions.content? id = some content →
      run (siteNetwork (String.ofList authority.renderHost) site) arguments =
        .done (content ++ "\n") "") ↔ IsLiteral id := by
  constructor
  · intro printed
    have registered : (({} : Store).register id "").content? id = some "" := by
      rw [Store.content?_eq_map_get?, Store.get?_register, if_pos rfl]
      rfl
    have shown := printed { regions := ({} : Store).register id "" } "" registered
    rw [run_regionCommand address sendable asked short] at shown
    exact isLiteral_of_reaches (reaches_of_empty shown)
  · intro literal site content registered
    rw [run_regionCommand address sendable asked short,
      answerAt_of_reaches (reaches_of_isLiteral given literal), registered]
    rfl

end Run

/-- An id with a percent sign, a space and a letter outside ASCII, asked for at an address
with two slashes behind it, among other regions. -/
theorem region_printed_percent :
    run (siteNetwork "127.0.0.1:7658"
        { regions := (({} : Store).register "100%" "a").register "100% é" "<p>" })
      ["-u", "http://127.0.0.1:7658//", "region", "100% é"] = .done "<p>\n" "" := by
  have address : IsAddress "127.0.0.1:7658".toList
      { host := .ipv4 0x7F000001, port := some 7658 } :=
    ⟨List.all_iff_forall_prop.mp (by decide), List.all_iff_forall_prop.mp (by decide),
      by decide +kernel⟩
  have asked : parse ["-u", "http://127.0.0.1:7658//", "region", "100% é"] =
      .run (regionCommand "127.0.0.1:7658".toList 2 "100% é") := rfl
  have ends : ∀ c ∈ "100% é".toList.getLast?, 0x20 < c.toNat := by
    rintro c ⟨⟩
    decide
  have short : ∀ url,
      Url.parse (regionCommand "127.0.0.1:7658".toList 2 "100% é").urlText = .ok url →
        url.text.utf8ByteSize ≤ Http.Uri.maxLength := by
    intro url read
    rw [parse_regionCommand address] at read
    cases read
    decide +kernel
  have literal : IsLiteral "100% é" :=
    ⟨List.all_iff_forall_prop.mp (by decide), ends, by decide, by decide +kernel⟩
  exact (region_printed_iff address rfl (by decide) asked short).mpr literal _ "<p>" rfl

/-- The inspector prints the status of the dashboard for a region that is there, since the
dots of its id lead out of the regions. -/
theorem region_above_unprinted :
    (({} : Store).register "../status" "x").content? "../status" = some "x" ∧
      run (siteNetwork "127.0.0.1:7658" { regions := ({} : Store).register "../status" "x" })
          ["--url", "http://127.0.0.1:7658", "region", "../status"] =
        .done "\x7b\"version\":\"0.1.0\",\"status\":\"operational\",\"regions\":1\x7d\n" "" := by
  decide +kernel

end PanelBoard.Inspect
