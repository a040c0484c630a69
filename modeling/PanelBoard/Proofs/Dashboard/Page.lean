import PanelBoard.Proofs.Dashboard.Addressing

/-!
# Pages read back

The page with all regions is read back from its text by whoever knows the contents of the
regions: title and ids are found where they end, whatever texts they are and however much
the contents look like the page itself.
-/

namespace PanelBoard.Dashboard

open PanelBoard.Text PanelBoard.Region

/-- What stands behind the id of a region with known content. -/
def divisionEnd (content : String) : List Char :=
  "\">".toList ++ content.toList ++ "</div>\n".toList

/-- Read the id attributes of regions with known contents, and what follows. -/
def readDivisions? : List String → List Char → Option (List (List Char) × List Char)
  | [], cs => some ([], cs)
  | content :: contents, cs => do
    let cs ← cs.dropPrefix? "<div id=\"".toList
    let (value, cs) := cutBefore (· == '"') cs
    let cs ← cs.dropPrefix? (divisionEnd content)
    let (values, cs) ← readDivisions? contents cs
    return (value :: values, cs)

/-- Read the title and the id attributes of a page whose regions have known contents, as
they stand in the markup. -/
def readPage? (contents : List String) (text : String) :
    Option (List Char × List (List Char)) := do
  let cs ← text.toList.dropPrefix? pageStart
  let (heading, cs) := cutBefore (· == '<') cs
  let cs ← cs.dropPrefix? pageMiddle
  let (values, cs) ← readDivisions? contents cs
  if cs = pageEnd then return (heading, values) else none

theorem dropPrefix?_append (front rest : List Char) :
    (front ++ rest).dropPrefix? front = some rest :=
  List.dropPrefix?_append_of_beq rest BEq.rfl

/-- Escaped text is cut off where a character follows that it cannot hold. -/
theorem cutBefore_escape {ending : Char} (special : ending ∈ entities.map Prod.fst)
    (other : ending ≠ '&') (cs rest : List Char) (ends : rest.head? = some ending) :
    cutBefore (· == ending) (escape cs ++ rest) = (escape cs, rest) := by
  refine cutBefore_append (fun c member => ?_) (by simp [ends])
  rw [beq_eq_false_iff_ne]
  rintro rfl
  exact not_mem_escape special other member

/-- A division in front of what follows. -/
theorem division_append (region : Snapshot) (rest : List Char) :
    division region ++ rest = "<div id=\"".toList ++
      (escape region.id.toList ++ (divisionEnd region.content ++ rest)) := by
  have regroup (first second third fourth fifth : List Char) :
      first ++ second ++ third ++ fourth ++ fifth ++ rest =
        first ++ (second ++ (third ++ fourth ++ fifth ++ rest)) := by simp
  exact regroup ..

/-- The attributes of divisions are read as they are written. -/
theorem readDivisions?_divisions (regions : List Snapshot) (rest : List Char) :
    readDivisions? (regions.map Snapshot.content) (regions.flatMap division ++ rest) =
      some (regions.map fun region => escape region.id.toList, rest) := by
  induction regions with
  | nil => rfl
  | cons region regions ih =>
      have cut : cutBefore (· == '"') (escape region.id.toList ++
          (divisionEnd region.content ++ (regions.flatMap division ++ rest))) = _ :=
        cutBefore_escape (by decide) (by decide) _ _ rfl
      rw [List.flatMap_cons, List.append_assoc, division_append, List.map_cons, readDivisions?,
        dropPrefix?_append]
      simp only [Option.bind_eq_bind, Option.bind_some, cut]
      rw [dropPrefix?_append, Option.bind_some, ih]
      rfl

/-- A page is read as it is written. -/
theorem readPage?_page (title : String) (regions : List Snapshot) :
    readPage? (regions.map Snapshot.content) (page title regions) =
      some (escape title.toList, regions.map fun region => escape region.id.toList) := by
  have parts : (page title regions).toList = pageStart ++
      (escape title.toList ++ (pageMiddle ++ (regions.flatMap division ++ pageEnd))) := by
    simp only [page, String.toList_ofList, List.append_assoc]
  have cut : cutBefore (· == '<') (escape title.toList ++
      (pageMiddle ++ (regions.flatMap division ++ pageEnd))) = _ :=
    cutBefore_escape (by decide) (by decide) _ _ rfl
  rw [readPage?, parts, dropPrefix?_append]
  simp only [Option.bind_eq_bind, Option.bind_some, cut]
  rw [dropPrefix?_append, Option.bind_some, readDivisions?_divisions]
  rfl

/-- Among pages with the same contents no two have the same text. -/
theorem eq_of_page_eq {title other : String} {regions others : List Snapshot}
    (contents : regions.map Snapshot.content = others.map Snapshot.content)
    (same : page title regions = page other others) :
    title = other ∧ regions.map Snapshot.id = others.map Snapshot.id := by
  have read := readPage?_page title regions
  rw [contents, same, readPage?_page] at read
  obtain ⟨titles, ids⟩ := Prod.mk.inj (Option.some.inj read)
  have injective : Function.Injective fun id : String => escape id.toList :=
    fun _ _ same => String.toList_injective (escape_injective same)
  refine ⟨injective titles.symm, List.map_injective_iff.mpr injective ?_⟩
  rw [List.map_map, List.map_map]
  exact ids.symm

/-- Ids and titles cannot break the page. Escaped text holds none of the four characters
that end a text in markup, its ampersands begin entities, and replacing these gives back
the text. So the index of a site is read back: behind its title and, for each region in the
order in which regions were first named, its id, and the attributes differ as the ids do.
Pages with the same contents but another title or other ids are other pages. -/
theorem page_read_back {calls : List Call} {log : List Log.Event} {store : Store}
    (history : Store.History calls log store) (title : String) :
    (∀ cs, (∀ c ∈ escape cs, c ≠ '<' ∧ c ≠ '>' ∧ c ≠ '"' ∧ c ≠ '\'') ∧
      (∀ before after, escape cs = before ++ '&' :: after →
        ∃ entity ∈ entities, entity.2 <+: '&' :: after) ∧
      unescape (escape cs) = cs) ∧
    (∃ body heading values, Site.Gives { title, regions := store } "/" .ok body ∧
      readPage? (store.snapshot.map Snapshot.content) body = some (heading, values) ∧
      String.ofList (unescape heading) = title ∧
      values.map (String.ofList ∘ unescape) = store.snapshot.map Snapshot.id ∧
      store.snapshot.map Snapshot.id = namedBy calls ∧ values.Nodup) ∧
    ∀ first second : String, ∀ regions others : List Snapshot,
      regions.map Snapshot.content = others.map Snapshot.content →
      page first regions = page second others →
      first = second ∧ regions.map Snapshot.id = others.map Snapshot.id := by
  have free {cs : List Char} : ∀ c ∈ escape cs, c ≠ '<' ∧ c ≠ '>' ∧ c ≠ '"' ∧ c ≠ '\'' := by
    refine fun c member => ⟨?_, ?_, ?_, ?_⟩ <;> rintro rfl <;>
      exact not_mem_escape (by decide) (by decide) member
  have named : store.snapshot.map Snapshot.id = namedBy calls :=
    Store.ids_snapshot_of_perm history.settled.1
  refine ⟨fun cs => ⟨free, fun _ _ => entity_of_escape, unescape_escape cs⟩,
    ⟨_, _, _, ⟨_, rfl, rfl, rfl⟩, readPage?_page title store.snapshot, ?_, ?_, named, ?_⟩,
    fun _ _ _ _ => eq_of_page_eq⟩
  · rw [unescape_escape, String.ofList_toList]
  · rw [List.map_map]
    refine List.map_congr_left fun region _ => ?_
    rw [Function.comp_apply, Function.comp_apply, unescape_escape, String.ofList_toList]
  · have distinct : (store.snapshot.map Snapshot.id).Nodup := named ▸ nodup_namedBy calls
    have attributes := distinct.map fun _ _ same =>
      String.toList_injective (escape_injective same)
    rwa [List.map_map] at attributes

/-- A title that ends itself, an id that closes its attribute, and a content that looks like
the division of another region: all are told apart. -/
theorem page_read_back_hostile :
    ∃ log store, Store.History
        [.register "\"><i>'&quot;" "</div>\n<div id=\"mail\">", .write "mail" "</body>"] log store ∧
      ∃ body heading values,
        Site.Gives { title := "</title>&lt;", regions := store } "/" .ok body ∧
        readPage? ["</div>\n<div id=\"mail\">", "</body>"] body = some (heading, values) ∧
        String.ofList (unescape heading) = "</title>&lt;" ∧
        values.map (String.ofList ∘ unescape) = ["\"><i>'&quot;", "mail"] := by
  have history := (Store.History.new.call
    (.register "\"><i>'&quot;" "</div>\n<div id=\"mail\">")).call (.write "mail" "</body>")
  have listed : _ = [Snapshot.mk "\"><i>'&quot;" "</div>\n<div id=\"mail\">" 0,
      ⟨"mail", "</body>", 1⟩] :=
    (Store.snapshot_of_perm history.settled.1).trans (by decide +kernel)
  obtain ⟨-, ⟨body, heading, values, gives, read, title, ids, -⟩, -⟩ :=
    page_read_back history "</title>&lt;"
  rw [listed] at read ids
  exact ⟨_, _, history, body, heading, values, gives, read, title, ids⟩

end PanelBoard.Dashboard
