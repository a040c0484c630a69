import Mathlib.Data.List.Perm.Basic
import PanelBoard.Config.Decode
import PanelBoard.Proofs.Success
import PanelBoard.Proofs.Toml.Keys

/-!
# Entries of groups

A group takes in its entries one by one and stops at the first that does not fit, but if
all fit, their order does not matter: what one field puts into the state is not seen by
the others. An entry that is passed over, or that gives a field what it has anyway, can be
written and removed at will.
-/

namespace PanelBoard.Config

open PanelBoard.Toml

namespace Group

variable {σ α : Type} {group : Group σ α}

/-- Different fields do not see each other: they can be put in the other order. -/
def FieldsApart (group : Group σ α) : Prop :=
  ∀ ⦃first second⦄, first ≠ second → first ∈ group.fields → second ∈ group.fields →
    ∀ ⦃value other state next last⦄,
      group.put state first value = .ok next → group.put next second other = .ok last →
      ∃ middle, group.put state second other = .ok middle ∧
        group.put middle first value = .ok last

/-- An entry that says nothing: its key is no field, or its value is decoded to what the
field has when no entry is given. -/
def Silent (group : Group σ α) (key : String) (value : Value) : Prop :=
  key ∉ group.fields ∨ group.put group.start key value = .ok group.start

theorem putEntry_of_known {state : σ} {entry : String × Value} (known : entry.1 ∈ group.fields) :
    group.putEntry state entry = group.put state entry.1 entry.2 :=
  if_pos known

theorem putEntry_of_unknown {state : σ} {entry : String × Value}
    (unknown : entry.1 ∉ group.fields) : group.putEntry state entry = .ok state :=
  if_neg unknown

theorem putEntry_start {key : String} {value : Value} (silent : group.Silent key value) :
    group.putEntry group.start (key, value) = .ok group.start := by
  by_cases known : key ∈ group.fields
  · rw [putEntry_of_known known]
    exact silent.resolve_left (not_not_intro known)
  · exact putEntry_of_unknown known

/-! ## Order -/

theorem putEntry_comm (apart : group.FieldsApart) {first second : String × Value}
    (different : first.1 ≠ second.1) {state next last : σ}
    (putFirst : group.putEntry state first = .ok next)
    (putSecond : group.putEntry next second = .ok last) :
    ∃ middle, group.putEntry state second = .ok middle ∧
      group.putEntry middle first = .ok last := by
  by_cases knownFirst : first.1 ∈ group.fields
  · by_cases knownSecond : second.1 ∈ group.fields
    · rw [putEntry_of_known knownFirst] at putFirst
      rw [putEntry_of_known knownSecond] at putSecond
      obtain ⟨middle, early, late⟩ := apart different knownFirst knownSecond putFirst putSecond
      exact ⟨middle, (putEntry_of_known knownSecond).trans early,
        (putEntry_of_known knownFirst).trans late⟩
    · rw [putEntry_of_unknown knownSecond] at putSecond
      cases putSecond
      exact ⟨state, putEntry_of_unknown knownSecond, putFirst⟩
  · rw [putEntry_of_unknown knownFirst] at putFirst
    cases putFirst
    exact ⟨last, putSecond, putEntry_of_unknown knownFirst⟩

/-- Entries with different keys may be taken in any order. -/
theorem foldlM_perm (apart : group.FieldsApart) {entries other : List (String × Value)}
    (same : entries.Perm other) (once : (entries.map Prod.fst).Nodup) {state last : σ}
    (taken : entries.foldlM group.putEntry state = .ok last) :
    other.foldlM group.putEntry state = .ok last := by
  induction same generalizing state with
  | nil => exact taken
  | cons entry rest ih =>
      rw [List.foldlM_cons] at taken ⊢
      obtain ⟨next, put, taken⟩ := exists_of_bind_eq_ok taken
      rw [put]
      exact ih (List.nodup_cons.mp once).2 taken
  | swap second first rest =>
      simp only [List.foldlM_cons] at taken ⊢
      obtain ⟨next, putFirst, taken⟩ := exists_of_bind_eq_ok taken
      obtain ⟨later, putSecond, taken⟩ := exists_of_bind_eq_ok taken
      have different : first.1 ≠ second.1 := List.ne_of_not_mem_cons (List.nodup_cons.mp once).1
      obtain ⟨middle, early, late⟩ := putEntry_comm apart different putFirst putSecond
      rw [early]
      change (group.putEntry middle first >>= _) = _
      rw [late]
      exact taken
  | trans one two ihOne ihTwo =>
      exact ihTwo ((one.map Prod.fst).nodup_iff.mp once) (ihOne once taken)

theorem putAll_perm (apart : group.FieldsApart) {entries other : List (String × Value)}
    (same : entries.Perm other) (once : (entries.map Prod.fst).Nodup) {last : σ}
    (taken : group.putAll entries = .ok last) : group.putAll other = .ok last :=
  foldlM_perm apart same once taken

/-- A silent entry may be moved to the front, and there it does nothing. -/
theorem putAll_silent (apart : group.FieldsApart) {front back : List (String × Value)}
    {key : String} {value : Value} (silent : group.Silent key value)
    (once : ((front ++ (key, value) :: back).map Prod.fst).Nodup) {last : σ} :
    group.putAll (front ++ (key, value) :: back) = .ok last ↔
      group.putAll (front ++ back) = .ok last := by
  have moved : (front ++ (key, value) :: back).Perm ((key, value) :: (front ++ back)) :=
    List.perm_middle
  have idle : group.putAll ((key, value) :: (front ++ back)) = group.putAll (front ++ back) := by
    rw [putAll, List.foldlM_cons, putEntry_start silent]
    rfl
  rw [← idle]
  exact ⟨putAll_perm apart moved once,
    putAll_perm apart moved.symm ((moved.map Prod.fst).nodup_iff.mp once)⟩

/-- An entry may also be taken last. -/
theorem putAll_last (apart : group.FieldsApart) {front back : List (String × Value)}
    {entry : String × Value} (once : ((front ++ entry :: back).map Prod.fst).Nodup) {last : σ} :
    group.putAll (front ++ entry :: back) = .ok last ↔
      ∃ state, group.putAll (front ++ back) = .ok state ∧
        group.putEntry state entry = .ok last := by
  have moved : (front ++ entry :: back).Perm ((front ++ back) ++ [entry]) :=
    List.perm_middle.trans (List.perm_append_singleton entry (front ++ back)).symm
  have lastly : group.putAll ((front ++ back) ++ [entry]) =
      group.putAll (front ++ back) >>= fun state => group.putEntry state entry := by
    rw [putAll, List.foldlM_append]
    refine bind_congr fun state => ?_
    rw [List.foldlM_cons]
    exact bind_pure _
  constructor
  · intro taken
    exact exists_of_bind_eq_ok (lastly ▸ putAll_perm apart moved once taken)
  · rintro ⟨state, taken, put⟩
    refine putAll_perm apart moved.symm ((moved.map Prod.fst).nodup_iff.mp once) ?_
    rw [lastly, taken]
    exact put

/-- An entry may be exchanged for another that does the same to every state. -/
theorem putAll_exchange {front back : List (String × Value)} {old new : String × Value}
    (alike : ∀ state next, group.putEntry state old = .ok next → group.putEntry state new = .ok next)
    {last : σ} (taken : group.putAll (front ++ old :: back) = .ok last) :
    group.putAll (front ++ new :: back) = .ok last := by
  rw [putAll, List.foldlM_append] at taken ⊢
  obtain ⟨state, early, taken⟩ := exists_of_bind_eq_ok taken
  obtain ⟨next, put, late⟩ := exists_of_bind_eq_ok taken
  rw [early]
  change (group.putEntry state new >>= fun next => back.foldlM group.putEntry next) = _
  rw [alike state next put]
  exact late

theorem decodeTable_eq_ok_iff {entries : List (String × Value)} {result : α} :
    group.decodeTable entries = .ok result ↔
      ∃ last, group.putAll entries = .ok last ∧ group.finish last = .ok result := by
  constructor
  · intro decoded
    obtain ⟨last, taken, decoded⟩ := exists_of_bind_eq_ok decoded
    refine ⟨last, taken, ?_⟩
    split at decoded
    · next finished => rw [finished, Except.ok.inj decoded]
    · cases decoded
  · rintro ⟨last, taken, finished⟩
    rw [decodeTable, taken]
    simp only [bind, Except.bind, finished]

end Group

/-! ## The groups of a configuration -/

/-- Two fields whose values change different parts of a state do not see each other. -/
theorem put_apart {σ α β γ : Type} {group : Group σ γ} {first second : String}
    {value other : Value} {found : Except Mismatch α} {another : Except Mismatch β}
    {change : σ → α → σ} {alter : σ → β → σ}
    (puts : ∀ state, group.put state first value = found.map (change state))
    (putsOther : ∀ state, group.put state second other = another.map (alter state))
    (apart : ∀ state one two, alter (change state one) two = change (alter state two) one)
    {state next last : σ} (putFirst : group.put state first value = .ok next)
    (putSecond : group.put next second other = .ok last) :
    ∃ middle, group.put state second other = .ok middle ∧
      group.put middle first value = .ok last := by
  simp only [puts, putsOther, map_eq_ok_iff] at putFirst putSecond ⊢
  obtain ⟨one, readFirst, rfl⟩ := putFirst
  obtain ⟨two, readSecond, rfl⟩ := putSecond
  exact ⟨alter state two, ⟨two, readSecond, rfl⟩, one, readFirst, (apart state one two).symm⟩

theorem clientGroup_apart : clientGroup.FieldsApart := by
  intro first second different known knownToo value other state next last
  simp only [clientGroup, List.mem_cons, List.not_mem_nil, or_false] at known knownToo
  rcases known with rfl | rfl <;> rcases knownToo with rfl | rfl <;> first
    | exact absurd rfl different
    | exact put_apart (fun _ => rfl) (fun _ => rfl) fun _ _ _ => rfl

theorem panelGroup_apart : panelGroup.FieldsApart := by
  intro first second different known knownToo value other state next last
  simp only [panelGroup, List.mem_cons, List.not_mem_nil, or_false] at known knownToo
  rcases known with rfl | rfl | rfl | rfl <;> rcases knownToo with rfl | rfl | rfl | rfl <;> first
    | exact absurd rfl different
    | exact put_apart (fun _ => rfl) (fun _ => rfl) fun _ _ _ => rfl

theorem dashboardGroup_apart : dashboardGroup.FieldsApart := by
  intro first second different known knownToo value other state next last
  simp only [dashboardGroup, List.mem_cons, List.not_mem_nil, or_false] at known knownToo
  rcases known with rfl | rfl | rfl <;> rcases knownToo with rfl | rfl | rfl <;> first
    | exact absurd rfl different
    | exact put_apart (fun _ => rfl) (fun _ => rfl) fun _ _ _ => rfl

theorem observabilityGroup_apart : observabilityGroup.FieldsApart := by
  intro first second different known knownToo value other state next last
  simp only [observabilityGroup, List.mem_cons, List.not_mem_nil, or_false] at known knownToo
  rcases known with rfl | rfl | rfl <;> rcases knownToo with rfl | rfl | rfl <;> first
    | exact absurd rfl different
    | exact put_apart (fun _ => rfl) (fun _ => rfl) fun _ _ _ => rfl

theorem rootGroup_apart : rootGroup.FieldsApart := by
  intro first second different known knownToo value other state next last
  simp only [rootGroup, List.mem_cons, List.not_mem_nil, or_false] at known knownToo
  rcases known with rfl | rfl | rfl | rfl | rfl <;>
    rcases knownToo with rfl | rfl | rfl | rfl | rfl <;> first
    | exact absurd rfl different
    | exact put_apart (fun _ => rfl) (fun _ => rfl) fun _ _ _ => rfl

/-! ## Defaults -/

namespace Group

variable {σ α : Type} {group : Group σ α}

/-- A field that can be written out with its default. -/
def HasDefault (group : Group σ α) (field : String) : Prop :=
  ∃ value : Value, value.Distinct ∧ group.Silent field value

/-- A field has no default if each of its values is told from a missing one. -/
theorem not_hasDefault {β : Type} {field : String} {found : Value → Except Mismatch β}
    {change : β → σ} (known : field ∈ group.fields)
    (puts : ∀ value, group.put group.start field value = (found value).map change)
    (differs : ∀ given, change given ≠ group.start) : ¬group.HasDefault field := by
  rintro ⟨value, -, unknown | put⟩
  · exact unknown known
  · obtain ⟨given, -, same⟩ := map_eq_ok_iff.mp ((puts value).symm.trans put)
    exact differs given same

end Group

/-- Every field has a default that can be written out, save three fields of a panel: its
target and its URL must be given, and no value stands for initial content that is left out. -/
structure DefaultsAreSilent : Prop where
  root : ∀ field ∈ rootGroup.fields, rootGroup.HasDefault field
  client : ∀ field ∈ clientGroup.fields, clientGroup.HasDefault field
  panel : ∀ field ∈ panelGroup.fields, panelGroup.HasDefault field ↔ field = "refresh_ms"
  dashboard : ∀ field ∈ dashboardGroup.fields, dashboardGroup.HasDefault field
  observability : ∀ field ∈ observabilityGroup.fields, observabilityGroup.HasDefault field

theorem defaultsAreSilent : DefaultsAreSilent := by
  have empty : (Value.table []).Distinct := .table .nil nofun
  constructor <;> intro field known
  case root =>
    simp only [rootGroup, List.mem_cons, List.not_mem_nil, or_false] at known
    rcases known with rfl | rfl | rfl | rfl | rfl
    · exact ⟨.text _, .text _, .inr rfl⟩
    · exact ⟨.table [], empty, .inr rfl⟩
    · exact ⟨.array [], .array nofun, .inr rfl⟩
    · exact ⟨.table [], empty, .inr rfl⟩
    · exact ⟨.table [], empty, .inr rfl⟩
  case client =>
    simp only [clientGroup, List.mem_cons, List.not_mem_nil, or_false] at known
    rcases known with rfl | rfl <;> exact ⟨.text _, .text _, .inr rfl⟩
  case dashboard =>
    simp only [dashboardGroup, List.mem_cons, List.not_mem_nil, or_false] at known
    rcases known with rfl | rfl | rfl
    · exact ⟨.boolean _, .boolean _, .inr rfl⟩
    · exact ⟨.text _, .text _, .inr rfl⟩
    · exact ⟨.text _, .text _, .inr rfl⟩
  case observability =>
    simp only [observabilityGroup, List.mem_cons, List.not_mem_nil, or_false] at known
    rcases known with rfl | rfl | rfl
    · exact ⟨.text _, .text _, .inr rfl⟩
    · exact ⟨.boolean _, .boolean _, .inr rfl⟩
    · exact ⟨.text _, .text _, .inr rfl⟩
  case panel =>
    have fields := known
    simp only [panelGroup, List.mem_cons, List.not_mem_nil, or_false] at fields
    rcases fields with rfl | rfl | rfl | rfl
    · exact iff_of_false (Group.not_hasDefault known (fun _ => rfl) nofun) (by decide)
    · exact iff_of_false (Group.not_hasDefault known (fun _ => rfl) nofun) (by decide)
    · exact iff_of_true ⟨.integer 60000, .integer _, .inr rfl⟩ rfl
    · exact iff_of_false (Group.not_hasDefault known (fun _ => rfl) nofun) (by decide)

end PanelBoard.Config
