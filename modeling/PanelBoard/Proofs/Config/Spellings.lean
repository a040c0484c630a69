import Mathlib.Data.List.Forall2
import PanelBoard.Config.Load
import PanelBoard.Proofs.Config.Entries

/-!
# Groups spelt as arrays

A group may be spelt as an array, which gives the values of its first fields, or as the
table that names them. Wherever in a document and however often one spelling stands for
the other, the same comes out; only a field that is missing is told in another way.
-/

namespace PanelBoard.Config

open PanelBoard.Toml

/-! ## Spellings -/

/-- A value and itself, or an array and the table that names the fields of its values, for
which there may be too few or too many. -/
inductive Spelling (fields : List String) : Value → Value → Prop where
  | kept (value : Value) : Spelling fields value value
  | named (values : List Value) : Spelling fields (.array values) (.table (fields.zip values))

/-- An entry of a document with the groups in its value spelt in either way. -/
inductive EntrySpelling : String × Value → String × Value → Prop where
  | kept (entry : String × Value) : EntrySpelling entry entry
  | client {old new : Value} (spelt : Spelling ["base_url", "user_agent"] old new) :
      EntrySpelling ("client", old) ("client", new)
  | panels {elements others : List Value}
      (spelt : List.Forall₂ (Spelling ["target", "url", "refresh_ms", "initial_content"])
        elements others) :
      EntrySpelling ("panels", .array elements) ("panels", .array others)
  | dashboard {old new : Value} (spelt : Spelling ["enabled", "bind_address", "title"] old new) :
      EntrySpelling ("dashboard", old) ("dashboard", new)
  | observability {old new : Value}
      (spelt : Spelling ["log_level", "metrics_enabled", "metrics_address"] old new) :
      EntrySpelling ("observability", old) ("observability", new)

/-- A document and the same with any of its groups that are arrays spelt as tables. -/
def Respelling (document other : List (String × Value)) : Prop :=
  List.Forall₂ EntrySpelling document other

/-! ## Outcomes -/

/-- What comes of two spellings: the same, or an array that is too short and a table in
which a field is missing. -/
inductive Alike {α : Type} : Except Mismatch α → Except Mismatch α → Prop where
  | same (outcome : Except Mismatch α) : Alike outcome outcome
  | short (length : Nat) (expected field : String) :
      Alike (.error (.invalidLength length expected)) (.error (.missingField field))

section Outcomes

variable {α β ι : Type}

theorem Alike.eq_ok_iff {first other : Except Mismatch α} (alike : Alike first other)
    (value : α) : first = .ok value ↔ other = .ok value := by
  cases alike with
  | same => rfl
  | short => exact iff_of_false nofun nofun

theorem Alike.bind {first other : Except Mismatch α} (alike : Alike first other)
    {next following : α → Except Mismatch β}
    (behind : ∀ value, Alike (next value) (following value)) :
    Alike (first >>= next) (other >>= following) := by
  cases alike with
  | same =>
      cases first with
      | error cause => exact .same _
      | ok value => exact behind value
  | short length expected field => exact .short length expected field

theorem Alike.map {first other : Except Mismatch α} (alike : Alike first other)
    (change : α → β) : Alike (first.map change) (other.map change) := by
  cases alike with
  | same => exact .same _
  | short length expected field => exact .short length expected field

/-- Items that are read alike one by one are read alike together. -/
theorem alike_mapM {read : ι → Except Mismatch α} {items others : List ι}
    (alike : List.Forall₂ (fun item other => Alike (read item) (read other)) items others) :
    Alike (items.mapM read) (others.mapM read) := by
  induction alike with
  | nil => exact .same _
  | cons first _ ih =>
      rw [List.mapM_cons, List.mapM_cons]
      exact first.bind fun _ => ih.bind fun _ => .same _

/-- Items that change every state alike do so one after another. -/
theorem alike_foldlM {take : α → ι → Except Mismatch α} {items others : List ι}
    (alike : List.Forall₂ (fun item other => ∀ state, Alike (take state item) (take state other))
      items others) (state : α) : Alike (items.foldlM take state) (others.foldlM take state) := by
  induction alike generalizing state with
  | nil => exact .same _
  | cons first _ ih =>
      rw [List.foldlM_cons, List.foldlM_cons]
      exact (first state).bind ih

end Outcomes

/-! ## Groups -/

namespace Group

variable {σ α : Type} {group : Group σ α}

/-- Values in turn are entries that name their fields. -/
theorem putInTurn_eq_foldlM {fields : List String} (known : ∀ field ∈ fields, field ∈ group.fields)
    (values : List Value) (state : σ) :
    group.putInTurn fields values state = (fields.zip values).foldlM group.putEntry state := by
  induction fields generalizing values state with
  | nil => rfl
  | cons field fields ih =>
      obtain ⟨first, others⟩ := List.forall_mem_cons.mp known
      cases values with
      | nil => rfl
      | cons value values =>
          rw [putInTurn, List.zip_cons_cons, List.foldlM_cons, putEntry_of_known first]
          exact bind_congr fun next => ih others values next

/-- Both spellings of a group are decoded alike. -/
theorem alike_decode (group : Group σ α) {old new : Value} (spelt : Spelling group.fields old new) :
    Alike (group.decode old) (group.decode new) := by
  cases spelt with
  | kept => exact .same _
  | named values =>
      have taken : group.putInTurn group.fields values group.start =
          group.putAll (group.fields.zip values) :=
        putInTurn_eq_foldlM (fun _ member => member) values group.start
      rw [decode, decode, decodeArray, decodeTable, taken]
      refine (Alike.same _).bind fun state => ?_
      cases group.finish state with
      | ok result => exact .same _
      | error field => exact .short _ _ field

end Group

/-- A panel that is spelt as an array gives its target and its URL at least. -/
theorem two_le_of_panel {values : List Value} {panel : Panel}
    (decoded : panelGroup.decode (.array values) = .ok panel) : 2 ≤ values.length := by
  match values with
  | [] => cases decoded
  | [value] => cases value <;> cases decoded
  | _ :: _ :: others => exact Nat.le_add_left 2 others.length

/-! ## Documents -/

theorem EntrySpelling.alike_putEntry {entry other : String × Value}
    (spelt : EntrySpelling entry other) (config : Config) :
    Alike (rootGroup.putEntry config entry) (rootGroup.putEntry config other) := by
  cases spelt with
  | kept => exact .same _
  | client spelt => exact (clientGroup.alike_decode spelt).map _
  | panels spelt =>
      exact (alike_mapM (spelt.imp fun _ _ => panelGroup.alike_decode)).map _
  | dashboard spelt => exact (dashboardGroup.alike_decode spelt).map _
  | observability spelt => exact (observabilityGroup.alike_decode spelt).map _

theorem Respelling.alike_decode {document other : List (String × Value)}
    (spelt : Respelling document other) : Alike (decode document) (decode other) :=
  (alike_foldlM (spelt.imp fun _ _ => EntrySpelling.alike_putEntry) _).bind fun _ => .same _

/-- Texts of two spellings have the same verdict, unless a field is missing. -/
theorem Respelling.alike_parse {document other : List (String × Value)}
    (spelt : Respelling document other) {text respelt : String}
    (read : Toml.parse? text = some document) (found : Toml.parse? respelt = some other) :
    (∀ config, parse text = .ok config ↔ parse respelt = .ok config) ∧
    ∀ problems, parse text = .error (.invalid problems) ↔
      parse respelt = .error (.invalid problems) := by
  have alike := spelt.alike_decode
  simp only [parse, read, found]
  generalize decode document = first at alike ⊢
  generalize decode other = second at alike ⊢
  cases alike with
  | same => exact ⟨fun _ => .rfl, fun _ => .rfl⟩
  | short => exact ⟨fun _ => iff_of_false nofun nofun, fun _ => iff_of_false nofun nofun⟩

/-- The two spellings of groups agree. Whatever groups of a document are arrays, few values
or many, and whichever of them are spelt as tables instead, the document has the same
configuration, or none in both spellings, and so have texts of it. A panel is not spelt by
less than two values. -/
theorem spellings_agree {document other : List (String × Value)}
    (spelt : Respelling document other) :
    Alike (decode document) (decode other) ∧
    (∀ config, decode document = .ok config ↔ decode other = .ok config) ∧
    (∀ text respelt, Toml.parse? text = some document → Toml.parse? respelt = some other →
      (∀ config, parse text = .ok config ↔ parse respelt = .ok config) ∧
      ∀ problems, parse text = .error (.invalid problems) ↔
        parse respelt = .error (.invalid problems)) ∧
    ∀ values panel, panelGroup.decode (.array values) = .ok panel → 2 ≤ values.length :=
  ⟨spelt.alike_decode, spelt.alike_decode.eq_ok_iff,
    fun _ _ read found => spelt.alike_parse read found, fun _ _ => two_le_of_panel⟩

/-- A text whose groups are all arrays. -/
def arraysText : String :=
  "client = [\"http://r/\"]\n" ++
  "panels = [[\"a\", \"/a\", 5, \"<p>\", true], [\"b\", \"/b\"]]\n" ++
  "dashboard = [false]\nobservability = []\n"

/-- Its document. -/
def arraysDocument : List (String × Value) :=
  [("client", .array [.text "http://r/"]),
    ("panels", .array [.array [.text "a", .text "/a", .integer 5, .text "<p>", .boolean true],
      .array [.text "b", .text "/b"]]),
    ("dashboard", .array [.boolean false]), ("observability", .array [])]

/-- The same text with tables for a panel and for the dashboard. -/
def tablesText : String :=
  "client = [\"http://r/\"]\n" ++
  "panels = [\x7btarget = \"a\", url = \"/a\", refresh_ms = 5, initial_content = \"<p>\"\x7d, " ++
  "[\"b\", \"/b\"]]\n" ++
  "dashboard = \x7benabled = false\x7d\nobservability = []\n"

/-- Its document. -/
def tablesDocument : List (String × Value) :=
  [("client", .array [.text "http://r/"]),
    ("panels", .array [.table [("target", .text "a"), ("url", .text "/a"),
        ("refresh_ms", .integer 5), ("initial_content", .text "<p>")],
      .array [.text "b", .text "/b"]]),
    ("dashboard", .table [("enabled", .boolean false)]), ("observability", .array [])]

/-- An array with one value too many and one with too few, beside their tables. -/
theorem spellings_agree_mixed :
    Respelling arraysDocument tablesDocument ∧
    decode tablesDocument = .ok {
      client := { baseUrl := "http://r/" }
      panels := [{ target := "a", url := "/a", refresh := 5, initialContent := "<p>" },
        { target := "b", url := "/b" }]
      dashboard := { enabled := false } } ∧
    ∀ config, parse arraysText = .ok config ↔ parse tablesText = .ok config := by
  have spelt : Respelling arraysDocument tablesDocument :=
    .cons (.kept _) (.cons (.panels (.cons (.named _) (.cons (.kept _) .nil)))
      (.cons (.dashboard (.named _)) (.cons (.kept _) .nil)))
  have arrays : Toml.parse? arraysText = some arraysDocument := by decide +kernel
  have tables : Toml.parse? tablesText = some tablesDocument := by decide +kernel
  obtain ⟨-, decoded, verdicts, -⟩ := spellings_agree spelt
  exact ⟨spelt, (decoded _).mp (ok_of_toOption (by decide +kernel)),
    (verdicts _ _ arrays tables).1⟩

end PanelBoard.Config
