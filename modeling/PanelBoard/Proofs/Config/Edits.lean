import Mathlib.Data.List.Forall2
import Mathlib.Logic.Relation
import PanelBoard.Config.Load
import PanelBoard.Proofs.Config.Entries

/-!
# Edits that mean nothing

A document may be rearranged, annotated with keys that are not known, and told or spared
its defaults, in every table and in any combination: its configuration stays the same.
The panels of the array keep their order, and the configuration has them in this order.
-/

namespace PanelBoard.Config

open PanelBoard.Toml

/-! ## Edits -/

/-- One edit of the table of a group: its entries change places, an entry that says nothing
is written anywhere, or one that says nothing is removed. -/
inductive TableEdit {σ α : Type} (group : Group σ α) :
    List (String × Value) → List (String × Value) → Prop where
  | permute {entries other : List (String × Value)} (same : entries.Perm other) :
      TableEdit group entries other
  | write (front back : List (String × Value)) (key : String) (value : Value)
      (silent : group.Silent key value) (fresh : key ∉ (front ++ back).map Prod.fst)
      (distinct : value.Distinct) :
      TableEdit group (front ++ back) (front ++ (key, value) :: back)
  | remove (front back : List (String × Value)) {key : String} {value : Value}
      (silent : group.Silent key value) :
      TableEdit group (front ++ (key, value) :: back) (front ++ back)

/-- One edit in a table that the value of a field is, or that is a panel of it. -/
inductive PartEdit : String → Value → Value → Prop where
  | client {old new : List (String × Value)} (edit : TableEdit clientGroup old new) :
      PartEdit "client" (.table old) (.table new)
  | panel (front back : List Value) {old new : List (String × Value)}
      (edit : TableEdit panelGroup old new) :
      PartEdit "panels" (.array (front ++ .table old :: back))
        (.array (front ++ .table new :: back))
  | dashboard {old new : List (String × Value)} (edit : TableEdit dashboardGroup old new) :
      PartEdit "dashboard" (.table old) (.table new)
  | observability {old new : List (String × Value)} (edit : TableEdit observabilityGroup old new) :
      PartEdit "observability" (.table old) (.table new)

/-- One edit of a document, in its root table or in a table below. -/
inductive Edit : List (String × Value) → List (String × Value) → Prop where
  | root {old new : List (String × Value)} (edit : TableEdit rootGroup old new) : Edit old new
  | part (front back : List (String × Value)) {field : String} {old new : Value}
      (edit : PartEdit field old new) :
      Edit (front ++ (field, old) :: back) (front ++ (field, new) :: back)

/-! ## Keys -/

theorem TableEdit.distinct {σ α : Type} {group : Group σ α} {old new : List (String × Value)}
    (edit : TableEdit group old new) (distinct : (Value.table old).Distinct) :
    (Value.table new).Distinct := by
  cases edit with
  | permute same => exact distinct.perm same
  | write front back key value silent fresh held =>
      exact (distinct.cons fresh held).perm List.perm_middle.symm
  | remove front back silent => exact (distinct.perm List.perm_middle).tail

theorem PartEdit.distinct {field : String} {old new : Value} (edit : PartEdit field old new)
    (distinct : old.Distinct) : new.Distinct := by
  cases edit with
  | client edit => exact edit.distinct distinct
  | panel front back edit =>
      refine .array fun element member => ?_
      rcases List.mem_append.mp member with early | late
      · exact distinct.elements (List.mem_append_left _ early)
      · rcases List.mem_cons.mp late with rfl | late
        · exact edit.distinct (distinct.elements (by simp))
        · exact distinct.elements (by simp [late])
  | dashboard edit => exact edit.distinct distinct
  | observability edit => exact edit.distinct distinct

theorem Edit.distinct {old new : List (String × Value)} (edit : Edit old new)
    (distinct : (Value.table old).Distinct) : (Value.table new).Distinct := by
  cases edit with
  | root edit => exact edit.distinct distinct
  | @part front back field before after edit =>
      have moved := distinct.perm List.perm_middle
      have held : after.Distinct := edit.distinct (moved.parts List.mem_cons_self)
      exact (moved.tail.cons (List.nodup_cons.mp moved.once).1 held).perm List.perm_middle.symm

/-! ## Decoding -/

theorem TableEdit.decodeTable {σ α : Type} {group : Group σ α} (apart : group.FieldsApart)
    {old new : List (String × Value)} (edit : TableEdit group old new)
    (distinct : (Value.table old).Distinct) {result : α}
    (decoded : group.decodeTable old = .ok result) : group.decodeTable new = .ok result := by
  obtain ⟨last, taken, finished⟩ := Group.decodeTable_eq_ok_iff.mp decoded
  refine Group.decodeTable_eq_ok_iff.mpr ⟨last, ?_, finished⟩
  cases id edit with
  | permute same => exact Group.putAll_perm apart same distinct.once taken
  | write front back key value silent _ _ =>
      exact (Group.putAll_silent apart silent (edit.distinct distinct).once).mpr taken
  | remove front back silent =>
      exact (Group.putAll_silent apart silent distinct.once).mp taken

theorem PartEdit.put {field : String} {old new : Value} (edit : PartEdit field old new)
    (distinct : old.Distinct) {config next : Config}
    (taken : rootGroup.put config field old = .ok next) :
    rootGroup.put config field new = .ok next := by
  cases edit with
  | client edit =>
      obtain ⟨client, read, rfl⟩ := map_eq_ok_iff.mp taken
      exact map_eq_ok_iff.mpr ⟨client, edit.decodeTable clientGroup_apart distinct read, rfl⟩
  | @panel front back before after edit =>
      obtain ⟨panels, read, rfl⟩ := map_eq_ok_iff.mp taken
      have alike : ∀ panel, panelGroup.decode (.table before) = .ok panel →
          panelGroup.decode (.table after) = .ok panel := fun _ =>
        edit.decodeTable panelGroup_apart
          (distinct.elements (List.mem_append_right front List.mem_cons_self))
      exact map_eq_ok_iff.mpr ⟨panels, mapM_exchange alike read, rfl⟩
  | dashboard edit =>
      obtain ⟨dashboard, read, rfl⟩ := map_eq_ok_iff.mp taken
      exact map_eq_ok_iff.mpr ⟨dashboard, edit.decodeTable dashboardGroup_apart distinct read, rfl⟩
  | observability edit =>
      obtain ⟨observability, read, rfl⟩ := map_eq_ok_iff.mp taken
      exact map_eq_ok_iff.mpr
        ⟨observability, edit.decodeTable observabilityGroup_apart distinct read, rfl⟩

/-- One edit keeps the configuration. -/
theorem Edit.decode {old new : List (String × Value)} (edit : Edit old new)
    (distinct : (Value.table old).Distinct) {config : Config}
    (decoded : Config.decode old = .ok config) : Config.decode new = .ok config := by
  cases edit with
  | root edit => exact edit.decodeTable rootGroup_apart distinct decoded
  | @part front back field before after edit =>
      obtain ⟨last, taken, finished⟩ := Group.decodeTable_eq_ok_iff.mp decoded
      refine Group.decodeTable_eq_ok_iff.mpr ⟨last, Group.putAll_exchange ?_ taken, finished⟩
      have held : before.Distinct := (distinct.perm List.perm_middle).parts List.mem_cons_self
      intro state next put
      by_cases known : field ∈ rootGroup.fields
      · rw [Group.putEntry_of_known known] at put ⊢
        exact edit.put held put
      · rw [Group.putEntry_of_unknown known] at put ⊢
        exact put

/-- Any edits keep the configuration. -/
theorem decode_of_edits {document edited : List (String × Value)}
    (edits : Relation.ReflTransGen Edit document edited)
    (distinct : (Value.table document).Distinct) {config : Config}
    (decoded : decode document = .ok config) :
    (Value.table edited).Distinct ∧ decode edited = .ok config := by
  induction edits with
  | refl => exact ⟨distinct, decoded⟩
  | tail _ edit ih => exact ⟨edit.distinct ih.1, edit.decode ih.1 ih.2⟩

/-! ## Panels -/

/-- The panels that elements of an array are decoded to, one by one. -/
def DecodesTo (elements : List Value) (panels : List Panel) : Prop :=
  List.Forall₂ (fun element panel => panelGroup.decode element = .ok panel) elements panels

/-- A configuration has the panels of the array in their order. -/
theorem decode_panels {front back : List (String × Value)} {elements : List Value}
    (distinct : (Value.table (front ++ ("panels", .array elements) :: back)).Distinct)
    {config : Config}
    (decoded : decode (front ++ ("panels", .array elements) :: back) = .ok config) :
    DecodesTo elements config.panels ∧
    ∀ others panels, DecodesTo others panels →
      decode (front ++ ("panels", .array others) :: back) = .ok { config with panels } := by
  obtain ⟨_, taken, ⟨⟩⟩ := Group.decodeTable_eq_ok_iff.mp decoded
  obtain ⟨state, before, put⟩ := (Group.putAll_last rootGroup_apart distinct.once).mp taken
  obtain ⟨panels, read, rfl⟩ := map_eq_ok_iff.mp put
  refine ⟨mapM_eq_ok_iff.mp read, fun others exchanged decodes => ?_⟩
  refine Group.decodeTable_eq_ok_iff.mpr ⟨_, ?_, rfl⟩
  have once : ((front ++ ("panels", Value.array others) :: back).map Prod.fst).Nodup := by
    simpa using distinct.once
  refine (Group.putAll_last rootGroup_apart once).mpr ⟨state, before, ?_⟩
  exact map_eq_ok_iff.mpr ⟨exchanged, mapM_eq_ok_iff.mpr decodes, rfl⟩

/-! ## Texts -/

/-- Texts with the same configuration have the same verdict. -/
theorem parse_congr {text other : String} {document edited : List (String × Value)}
    {config : Config} (read : Toml.parse? text = some document)
    (decoded : decode document = .ok config) (found : Toml.parse? other = some edited)
    (kept : decode edited = .ok config) : parse other = parse text := by
  simp only [parse, read, decoded, found, kept]

/-- A configuration depends on the known keys only. Edits that mean nothing, however many
and wherever, keep the configuration of a document, and with it the verdict on every text
of the edited document. Only the order of the panels in the array counts: they are
configured in this order, and other panels in their place are configured in theirs. Among
the entries that say nothing are the defaults of all fields that have one. -/
theorem edits_keep_configuration {text : String} {document : List (String × Value)}
    (read : Toml.parse? text = some document) {config : Config}
    (decoded : decode document = .ok config) :
    (∀ edited, Relation.ReflTransGen Edit document edited →
      decode edited = .ok config ∧
      ∀ other, Toml.parse? other = some edited → parse other = parse text) ∧
    (∀ front elements back, document = front ++ ("panels", .array elements) :: back →
      DecodesTo elements config.panels ∧
      ∀ others panels, DecodesTo others panels →
        decode (front ++ ("panels", .array others) :: back) = .ok { config with panels }) ∧
    DefaultsAreSilent := by
  have distinct := Toml.distinct_parse? read
  refine ⟨?_, ?_, defaultsAreSilent⟩
  · intro edited edits
    have kept := (decode_of_edits edits distinct decoded).2
    exact ⟨kept, fun other found => parse_congr read decoded found kept⟩
  · rintro front elements back rfl
    exact decode_panels distinct decoded

/-- A document with two panels and a title that is the default. -/
def plainText : String :=
  "[[panels]]\ntarget = \"news\"\nurl = \"/news\"\n\n" ++
  "[[panels]]\ntarget = \"mail\"\nurl = \"/mail\"\n\n" ++
  "[dashboard]\ntitle = \"Console\"\n"

/-- The same document with the interval of the first panel written out, its entries in
another order, a key that is not known in front, and no dashboard. -/
def annotatedText : String :=
  "theme = [\"dark\", 1]\n\n" ++
  "[[panels]]\nrefresh_ms = 60000\nurl = \"/news\"\ntarget = \"news\"\n\n" ++
  "[[panels]]\ntarget = \"mail\"\nurl = \"/mail\"\n"

/-- The entries of the first panel. -/
def newsEntries : List (String × Value) := [("target", .text "news"), ("url", .text "/news")]

/-- The entries of the second panel. -/
def mailEntries : List (String × Value) := [("target", .text "mail"), ("url", .text "/mail")]

/-- The annotated text has the verdict of the plain one, and with the panels of the plain
document the other way round the configuration has them the other way round. -/
theorem edits_keep_configuration_annotated :
    parse annotatedText = parse plainText ∧
    decode [("panels", .array [.table mailEntries, .table newsEntries]),
      ("dashboard", .table [("title", .text "Console")])] =
        .ok { panels := [{ target := "mail", url := "/mail" },
          { target := "news", url := "/news" }] } := by
  have read : Toml.parse? plainText =
      some [("panels", .array [.table newsEntries, .table mailEntries]),
        ("dashboard", .table [("title", .text "Console")])] := by
    decide +kernel
  have decoded : decode [("panels", .array [.table newsEntries, .table mailEntries]),
      ("dashboard", .table [("title", .text "Console")])] =
        .ok { panels := [{ target := "news", url := "/news" },
          { target := "mail", url := "/mail" }] } :=
    ok_of_toOption (by decide +kernel)
  have annotated : Toml.parse? annotatedText =
      some [("theme", .array [.text "dark", .integer 1]),
        ("panels", .array [.table (("refresh_ms", .integer 60000) :: newsEntries.reverse),
          .table mailEntries])] := by
    decide +kernel
  obtain ⟨kept, ordered, -⟩ := edits_keep_configuration read decoded
  refine ⟨(kept _ ?_).2 _ annotated, ?_⟩
  · -- the title, the dashboard, the order of the first panel, its interval, the theme
    refine .trans (.single (.part [_] [] (.dashboard (.remove [] [] (.inr rfl))))) ?_
    refine .trans (.single (.root (.remove [_] [] (.inr rfl)))) ?_
    refine .trans (.single (.part [] [] (.panel [] [_] (.permute (List.Perm.swap _ _ []))))) ?_
    refine .trans (.single (.part [] [] (.panel [] [_]
      (.write [] _ "refresh_ms" (.integer 60000) (.inr rfl) (by decide) (.integer _))))) ?_
    exact .single (.root (.write [] _ "theme" (.array [.text "dark", .integer 1])
      (.inl (by decide)) (by decide)
      (.array (List.forall_mem_cons.mpr ⟨.text _, List.forall_mem_singleton.mpr (.integer _)⟩))))
  · exact (ordered [] _ _ rfl).2 _ _ (.cons rfl (.cons rfl .nil))

end PanelBoard.Config
