import Mathlib.Data.List.Nodup
import Mathlib.Data.Option.Basic
import PanelBoard.Toml.Document

/-!
# Keys of documents

However the lines of a document open and extend its tables, every table of the finished
document holds each of its keys once.
-/

namespace PanelBoard.Toml

/-- Every table within the value holds each of its keys once. -/
inductive Value.Distinct : Value → Prop where
  | text (value : String) : Distinct (.text value)
  | integer (value : Int) : Distinct (.integer value)
  | float (value : Number.Binary64) : Distinct (.float value)
  | boolean (value : Bool) : Distinct (.boolean value)
  | dateTime (literal : String) : Distinct (.dateTime literal)
  | array {elements : List Value} (parts : ∀ element ∈ elements, Distinct element) :
      Distinct (.array elements)
  | table {entries : List (String × Value)} (once : (entries.map Prod.fst).Nodup)
      (parts : ∀ entry ∈ entries, Distinct entry.2) : Distinct (.table entries)

namespace Value

theorem Distinct.once {entries : List (String × Value)} (distinct : (Value.table entries).Distinct) :
    (entries.map Prod.fst).Nodup := by
  cases distinct
  assumption

theorem Distinct.parts {entries : List (String × Value)} (distinct : (Value.table entries).Distinct)
    {entry : String × Value} (member : entry ∈ entries) : entry.2.Distinct := by
  cases distinct with
  | table _ parts => exact parts entry member

theorem Distinct.perm {entries other : List (String × Value)}
    (distinct : (Value.table entries).Distinct) (same : entries.Perm other) :
    (Value.table other).Distinct :=
  .table ((same.map Prod.fst).nodup_iff.mp distinct.once) fun _ member =>
    distinct.parts (same.mem_iff.mpr member)

theorem Distinct.cons {entries : List (String × Value)} {key : String} {value : Value}
    (distinct : (Value.table entries).Distinct) (fresh : key ∉ entries.map Prod.fst)
    (held : value.Distinct) : (Value.table ((key, value) :: entries)).Distinct :=
  .table (List.nodup_cons.mpr ⟨fresh, distinct.once⟩)
    (List.forall_mem_cons.mpr ⟨held, fun _ => distinct.parts⟩)

theorem Distinct.tail {entries : List (String × Value)} {entry : String × Value}
    (distinct : (Value.table (entry :: entries)).Distinct) : (Value.table entries).Distinct :=
  .table (List.nodup_cons.mp distinct.once).2 fun _ member =>
    distinct.parts (List.mem_cons_of_mem _ member)

theorem Distinct.elements {elements : List Value} (distinct : (Value.array elements).Distinct)
    {element : Value} (member : element ∈ elements) : element.Distinct := by
  cases distinct with
  | array parts => exact parts element member

end Value

/-! ## Tables under construction -/

theorem toValues_eq_map (entries : Entries) :
    toValues entries = entries.map fun entry => (entry.1, entry.2.toValue) := by
  induction entries with
  | nil => rfl
  | cons entry rest ih => rw [toValues, ih, List.map_cons]

theorem toTables_eq_map (elements : List Entries) :
    toTables elements = elements.map fun entries => .table (toValues entries) := by
  induction elements with
  | nil => rfl
  | cons entries rest ih => rw [toTables, ih, List.map_cons]

namespace Entries

/-- The finished table holds each key once, and so do the tables within it. -/
def Distinct (entries : Entries) : Prop :=
  (Value.table (toValues entries)).Distinct

variable {entries before after : Entries} {key : String} {node : Node}

theorem distinct_iff : entries.Distinct ↔
    (entries.map Prod.fst).Nodup ∧ ∀ entry ∈ entries, entry.2.toValue.Distinct := by
  have keys : (toValues entries).map Prod.fst = entries.map Prod.fst := by
    rw [toValues_eq_map, List.map_map]
    rfl
  constructor
  · intro distinct
    refine ⟨keys ▸ distinct.once, fun entry member => ?_⟩
    have finished : (entry.1, entry.2.toValue) ∈ toValues entries := by
      rw [toValues_eq_map]
      exact List.mem_map_of_mem member
    exact distinct.parts finished
  · rintro ⟨once, parts⟩
    refine .table (by rwa [keys]) fun entry member => ?_
    rw [toValues_eq_map] at member
    obtain ⟨earlier, there, rfl⟩ := List.mem_map.mp member
    exact parts earlier there

theorem distinct_nil : Distinct [] :=
  distinct_iff.mpr ⟨.nil, nofun⟩

/-- The node of a key in a distinct table is distinct. -/
theorem Distinct.get? (distinct : entries.Distinct) (found : entries.get? key = some node) :
    node.toValue.Distinct := by
  obtain ⟨front, back, rfl, -⟩ := List.lookup_eq_some_iff.mp found
  exact (distinct_iff.mp distinct).2 (key, node) (by simp)

/-- A key that is not there may be added. -/
theorem Distinct.concat (distinct : entries.Distinct) (fresh : entries.get? key = none)
    (held : node.toValue.Distinct) : Distinct (entries ++ [(key, node)]) := by
  obtain ⟨once, parts⟩ := distinct_iff.mp distinct
  have absent : key ∉ entries.map Prod.fst := by
    rw [Entries.get?, List.lookup_eq_none_iff] at fresh
    intro member
    obtain ⟨entry, there, rfl⟩ := List.mem_map.mp member
    simpa using fresh entry there
  refine distinct_iff.mpr ⟨?_, fun entry member => ?_⟩
  · rw [List.map_append, List.map_singleton, ← List.concat_eq_append]
    exact once.concat absent
  · rcases List.mem_append.mp member with there | added
    · exact parts entry there
    · rw [List.mem_singleton.mp added]
      exact held

theorem Distinct.replace (distinct : entries.Distinct) (held : node.toValue.Distinct) :
    (entries.replace key node).Distinct := by
  obtain ⟨once, parts⟩ := distinct_iff.mp distinct
  refine distinct_iff.mpr ⟨?_, fun entry member => ?_⟩
  · have keys : (entries.replace key node).map Prod.fst = entries.map Prod.fst := by
      rw [Entries.replace, List.map_map]
      refine List.map_congr_left fun entry _ => ?_
      by_cases same : entry.1 = key <;> simp [same]
    rwa [keys]
  · obtain ⟨earlier, there, rfl⟩ := List.mem_map.mp member
    split
    · exact held
    · exact parts earlier there

theorem Distinct.remove (distinct : entries.Distinct) : (entries.remove key).Distinct := by
  obtain ⟨once, parts⟩ := distinct_iff.mp distinct
  exact distinct_iff.mpr ⟨once.sublist (List.filter_sublist.map _),
    fun entry member => parts entry (List.mem_filter.mp member).1⟩

theorem get?_remove : (entries.remove key).get? key = none := by
  rw [Entries.get?, List.lookup_eq_none_iff]
  intro entry member
  simpa using Ne.symm (by simpa using (List.mem_filter.mp member).2)

/-- Whatever the change makes of a distinct table is distinct. -/
def Preserves (change : Entries → Option Entries) : Prop :=
  ∀ ⦃before after⦄, before.Distinct → change before = some after → after.Distinct

/-- The collected tables are all distinct if the one that changes stays so. -/
theorem Preserves.changeLast {change : Entries → Option Entries} (kept : Preserves change)
    {elements changed : List Entries} (distinct : (Node.tables elements).toValue.Distinct)
    (done : Entries.changeLast change elements = some changed) :
    (Node.tables changed).toValue.Distinct := by
  have each : ∀ entries ∈ elements, entries.Distinct := fun entries member =>
    distinct.elements (by rw [toTables_eq_map]; exact List.mem_map_of_mem member)
  unfold Entries.changeLast at done
  split at done
  · cases done
  · next last found =>
      obtain ⟨next, made, rfl⟩ := Option.map_eq_some_iff.mp done
      refine .array fun element member => ?_
      rw [toTables_eq_map] at member
      obtain ⟨entries, there, rfl⟩ := List.mem_map.mp member
      rcases List.mem_append.mp there with early | late
      · exact each entries (List.dropLast_subset _ early)
      · rw [List.mem_singleton.mp late]
        exact kept (each last (List.mem_of_getLast? found)) made

/-- A change at the end of a header's path leaves the tables around it distinct. -/
theorem Preserves.changeAt {change : Entries → Option Entries} (kept : Preserves change)
    (path : List String) : Preserves (Entries.changeAt change path) := by
  induction path with
  | nil => exact kept
  | cons key path ih =>
      intro before after distinct done
      unfold Entries.changeAt at done
      split at done
      · next fresh =>
          obtain ⟨below, made, rfl⟩ := Option.map_eq_some_iff.mp done
          exact distinct.concat fresh (ih distinct_nil made)
      · next origin below found =>
          obtain ⟨changed, made, rfl⟩ := Option.map_eq_some_iff.mp done
          exact distinct.replace (ih (distinct.get? found) made)
      · next elements found =>
          obtain ⟨changed, made, rfl⟩ := Option.map_eq_some_iff.mp done
          exact distinct.replace (ih.changeLast (distinct.get? found) made)
      · cases done

theorem preserves_openTable (key : String) : Preserves (openTable key) := by
  intro before after distinct done
  unfold openTable at done
  split at done
  · next fresh =>
      cases done
      exact distinct.concat fresh distinct_nil
  · next below found =>
      cases done
      have held : (Node.table .implied below).toValue.Distinct := distinct.get? found
      have opened : (Node.table .header below).toValue.Distinct := held
      exact distinct.remove.concat get?_remove opened
  · cases done

theorem preserves_openElement (key : String) : Preserves (openElement key) := by
  intro before after distinct done
  unfold openElement at done
  split at done
  · next fresh =>
      cases done
      exact distinct.concat fresh (.array fun element member =>
        List.mem_singleton.mp member ▸ distinct_nil)
  · next elements found =>
      cases done
      refine distinct.replace (.array fun element member => ?_)
      rw [toTables_eq_map, List.map_append, List.mem_append] at member
      rcases member with early | late
      · exact (distinct.get? found).elements (by rwa [toTables_eq_map])
      · rw [List.mem_singleton.mp late]
        exact distinct_nil
  · cases done

variable {value : Value}

theorem preserves_add (key : String) (held : value.Distinct) : Preserves (add key value) := by
  intro before after distinct done
  unfold add at done
  split at done
  · next fresh =>
      cases done
      exact distinct.concat fresh held
  · cases done

theorem preserves_addDotted (held : value.Distinct) (isDotted : Bool) (keys : List String) :
    Preserves (addDotted value isDotted keys) := by
  induction keys generalizing isDotted with
  | nil => exact fun _ _ _ done => nomatch done
  | cons key path ih =>
      intro before after distinct done
      cases path with
      | nil =>
          rw [addDotted] at done
          split at done
          · exact preserves_add key held distinct done
          · cases done
      | cons next path =>
          rw [addDotted] at done
          · split at done
            · next fresh =>
                obtain ⟨below, made, rfl⟩ := Option.map_eq_some_iff.mp done
                exact distinct.concat fresh (ih true distinct_nil made)
            · cases done
            · next origin below found =>
                obtain ⟨changed, made, rfl⟩ := Option.map_eq_some_iff.mp done
                exact distinct.replace (ih _ (distinct.get? found) made)
            · next elements found =>
                obtain ⟨changed, made, rfl⟩ := Option.map_eq_some_iff.mp done
                exact distinct.replace ((ih false).changeLast (distinct.get? found) made)
            · cases done
          · exact nofun

theorem preserves_addKey (held : value.Distinct) (keys : List String) :
    Preserves (addKey keys value) := by
  intro before after distinct done
  unfold addKey at done
  split at done
  · exact preserves_add _ held distinct done
  · exact preserves_addDotted held false keys distinct done

end Entries

/-- What every step of a fold keeps is kept by the fold. -/
theorem foldlM_keeps {α σ : Type} {step : σ → α → Option σ} {P : σ → Prop} {items : List α}
    (keeps : ∀ item ∈ items, ∀ before after, P before → step before item = some after → P after)
    {first last : σ} (holds : P first) (folded : items.foldlM step first = some last) :
    P last := by
  induction items generalizing first with
  | nil =>
      cases folded
      exact holds
  | cons item rest ih =>
      obtain ⟨keep, others⟩ := List.forall_mem_cons.mp keeps
      obtain ⟨next, stepped, folded⟩ := Option.bind_eq_some_iff.mp folded
      exact ih others (keep _ _ holds stepped) folded

/-! ## Values -/

/-- Every value that the reader answers is distinct. -/
def ReadsDistinct (reader : Reader Value) : Prop :=
  ∀ ⦃cs value rest⦄, reader cs = some (value, rest) → value.Distinct

theorem distinct_integerValue? {isNegative : Bool} {base : Nat} {digits : List Char}
    {value : Value} (read : integerValue? isNegative base digits = some value) :
    value.Distinct := by
  simp only [integerValue?, bind, Option.bind_eq_some_iff] at read
  obtain ⟨_, -, _, -, ⟨⟩⟩ := read
  exact .integer _

theorem readsDistinct_basedInteger? (base : Nat) : ReadsDistinct (basedInteger? base) := by
  intro cs value rest read
  simp only [basedInteger?, bind, Option.bind_eq_some_iff] at read
  obtain ⟨_, -, _, found, ⟨⟩⟩ := read
  exact distinct_integerValue? found

theorem readsDistinct_specialFloat? : ReadsDistinct specialFloat? := by
  intro cs value rest read
  simp only [specialFloat?] at read
  split at read
  · cases read
    exact .float _
  · obtain ⟨_, -, ⟨⟩⟩ := Option.map_eq_some_iff.mp read
    exact .float _

theorem readsDistinct_decimalNumber? : ReadsDistinct decimalNumber? := by
  intro cs value rest read
  simp only [decimalNumber?, bind, Option.bind_eq_some_iff] at read
  obtain ⟨_, -, _, -, _, -, read⟩ := read
  split at read
  · obtain ⟨_, found, ⟨⟩⟩ := Option.bind_eq_some_iff.mp read
    exact distinct_integerValue? found
  · obtain ⟨_, -, ⟨⟩⟩ := Option.bind_eq_some_iff.mp read
    exact .float _

theorem readsDistinct_number? : ReadsDistinct number? := by
  intro cs value rest read
  unfold number? at read
  split at read
  · exact readsDistinct_basedInteger? 16 read
  · exact readsDistinct_basedInteger? 8 read
  · exact readsDistinct_basedInteger? 2 read
  · split at read
    · next found =>
        cases read
        exact readsDistinct_specialFloat? found
    · exact readsDistinct_decimalNumber? read

theorem readsDistinct_scalar? : ReadsDistinct scalar? := by
  intro cs value rest read
  unfold scalar? at read
  split at read
  · cases read
    exact .text _
  · split at read
    · cases read
      exact .boolean _
    · split at read
      · cases read
        exact .boolean _
      · split at read
        · next found =>
            cases read
            obtain ⟨_, -, ⟨⟩⟩ := Option.map_eq_some_iff.mp found
            exact .dateTime _
        · exact readsDistinct_number? read

section Parts

variable {reader : Reader Value} (reads : ReadsDistinct reader)
include reads

theorem distinct_arrayElements? {fuel : Nat} {cs rest : List Char} {elements : List Value}
    (read : arrayElements? reader fuel cs = some (elements, rest)) :
    ∀ element ∈ elements, element.Distinct := by
  induction fuel generalizing cs elements with
  | zero => cases read
  | succ fuel ih =>
      simp only [arrayElements?, bind, Option.bind_eq_some_iff] at read
      obtain ⟨_, -, read⟩ := read
      split at read
      · cases read
        exact nofun
      · obtain ⟨⟨first, _⟩, found, read⟩ := Option.bind_eq_some_iff.mp read
        obtain ⟨_, -, read⟩ := Option.bind_eq_some_iff.mp read
        split at read
        · obtain ⟨_, others, ⟨⟩⟩ := Option.bind_eq_some_iff.mp read
          exact List.forall_mem_cons.mpr ⟨reads found, ih others⟩
        · cases read
          exact List.forall_mem_singleton.mpr (reads found)
        · cases read

theorem distinct_keyValue? {cs rest : List Char} {keys : List String} {value : Value}
    (read : keyValue? reader cs = some ((keys, value), rest)) : value.Distinct := by
  simp only [keyValue?, bind, Option.bind_eq_some_iff] at read
  obtain ⟨_, -, read⟩ := read
  split at read
  · obtain ⟨_, found, ⟨⟩⟩ := Option.bind_eq_some_iff.mp read
    exact reads found
  · cases read

theorem distinct_inlineKeys? {fuel : Nat} {cs rest : List Char}
    {keys : List (List String × Value)}
    (read : inlineKeys? reader fuel cs = some (keys, rest)) :
    ∀ entry ∈ keys, entry.2.Distinct := by
  induction fuel generalizing cs keys with
  | zero => cases read
  | succ fuel ih =>
      simp only [inlineKeys?, bind, Option.bind_eq_some_iff] at read
      obtain ⟨_, found, read⟩ := read
      split at read
      · obtain ⟨_, others, ⟨⟩⟩ := Option.bind_eq_some_iff.mp read
        exact List.forall_mem_cons.mpr ⟨distinct_keyValue? reads found, ih others⟩
      · cases read
        exact List.forall_mem_singleton.mpr (distinct_keyValue? reads found)
      · cases read

end Parts

theorem distinct_inlineTable? {keys : List (List String × Value)} {value : Value}
    (parts : ∀ entry ∈ keys, entry.2.Distinct) (made : inlineTable? keys = some value) :
    value.Distinct := by
  obtain ⟨entries, folded, ⟨⟩⟩ := Option.bind_eq_some_iff.mp made
  exact foldlM_keeps (fun entry member _ _ distinct added =>
    Entries.preserves_addKey (parts entry member) _ distinct added) Entries.distinct_nil folded

/-- Values are distinct, whatever their depth. -/
theorem readsDistinct_value? (depth : Nat) : ReadsDistinct (value? depth) := by
  induction depth with
  | zero => exact readsDistinct_scalar?
  | succ depth ih =>
      intro cs value rest read
      unfold value? at read
      split at read
      · obtain ⟨_, found, ⟨⟩⟩ := Option.map_eq_some_iff.mp read
        exact .array (distinct_arrayElements? ih found)
      · split at read
        · cases read
          exact .table .nil nofun
        · obtain ⟨_, found, read⟩ := Option.bind_eq_some_iff.mp read
          obtain ⟨_, made, ⟨⟩⟩ := Option.bind_eq_some_iff.mp read
          exact distinct_inlineTable? (distinct_inlineKeys? ih found) made
      · exact readsDistinct_scalar? read

/-! ## Documents -/

/-- A line brings nothing but distinct values. -/
def Line.Distinct : Line → Prop
  | .keyValue _ value => value.Distinct
  | .table _ => True
  | .element _ => True

theorem distinct_line? {cs rest : List Char} {line : Line}
    (read : line? cs = some (line, rest)) : line.Distinct := by
  unfold line? at read
  split at read
  · obtain ⟨_, -, ⟨⟩⟩ := Option.map_eq_some_iff.mp read
    trivial
  · obtain ⟨_, -, ⟨⟩⟩ := Option.map_eq_some_iff.mp read
    trivial
  · obtain ⟨_, found, read⟩ := Option.bind_eq_some_iff.mp read
    obtain ⟨_, -, ⟨⟩⟩ := Option.bind_eq_some_iff.mp read
    exact distinct_keyValue? (readsDistinct_value? _) found

theorem distinct_readLines {fuel : Nat} {cs : List Char} {lines : List Line}
    (read : readLines fuel cs = some lines) : ∀ line ∈ lines, line.Distinct := by
  induction fuel generalizing cs lines with
  | zero => cases read
  | succ fuel ih =>
      unfold readLines at read
      split at read
      · cases read
        exact nofun
      · obtain ⟨_, -, read⟩ := Option.bind_eq_some_iff.mp read
        exact ih read
      · exact ih read
      · obtain ⟨_, -, read⟩ := Option.bind_eq_some_iff.mp read
        exact ih read
      · obtain ⟨_, first, read⟩ := Option.bind_eq_some_iff.mp read
        obtain ⟨_, others, ⟨⟩⟩ := Option.bind_eq_some_iff.mp read
        exact List.forall_mem_cons.mpr ⟨distinct_line? first, ih others⟩

theorem Draft.distinct_addLine {draft next : Draft} {line : Line} (distinct : draft.root.Distinct)
    (held : line.Distinct) (added : draft.addLine line = some next) : next.root.Distinct := by
  cases line with
  | keyValue keys value =>
      obtain ⟨_, changed, rfl⟩ := Option.map_eq_some_iff.mp added
      exact (Entries.preserves_addKey held keys).changeAt _ distinct changed
  | table path =>
      obtain ⟨key, -, added⟩ := Option.bind_eq_some_iff.mp added
      obtain ⟨_, changed, ⟨⟩⟩ := Option.bind_eq_some_iff.mp added
      exact (Entries.preserves_openTable key).changeAt _ distinct changed
  | element path =>
      obtain ⟨key, -, added⟩ := Option.bind_eq_some_iff.mp added
      obtain ⟨_, changed, ⟨⟩⟩ := Option.bind_eq_some_iff.mp added
      exact (Entries.preserves_openElement key).changeAt _ distinct changed

/-- The tables of a document hold each key once. -/
theorem distinct_parse? {text : String} {document : List (String × Value)}
    (read : parse? text = some document) : (Value.table document).Distinct := by
  obtain ⟨lines, found, read⟩ := Option.bind_eq_some_iff.mp read
  obtain ⟨draft, folded, ⟨⟩⟩ := Option.bind_eq_some_iff.mp read
  exact foldlM_keeps (P := fun draft => draft.root.Distinct)
    (fun line member _ _ distinct added =>
      Draft.distinct_addLine distinct (distinct_readLines found line member) added)
    Entries.distinct_nil folded

end PanelBoard.Toml
