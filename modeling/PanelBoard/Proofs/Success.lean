import Mathlib.Data.List.Forall2

/-!
# Computations that succeed

A computation that succeeds was made of parts that do.
-/

namespace PanelBoard

variable {ε α β : Type}

theorem ok_of_toOption {answer : Except ε α} {value : α}
    (read : answer.toOption = some value) : answer = .ok value := by
  cases answer with
  | error cause => cases read
  | ok other => rw [Option.some.inj read]

/-- A computation that succeeds has first parts that do. -/
theorem exists_of_bind_eq_ok {first : Except ε α} {next : α → Except ε β}
    {result : β} (succeeds : (first >>= next) = .ok result) :
    ∃ value, first = .ok value ∧ next value = .ok result := by
  cases first with
  | error cause => cases succeeds
  | ok value => exact ⟨value, rfl, succeeds⟩

theorem map_eq_ok_iff {first : Except ε α} {change : α → β} {result : β} :
    first.map change = .ok result ↔ ∃ value, first = .ok value ∧ change value = result := by
  cases first <;> simp [Except.map]

/-- Items are all read exactly if each of them is. -/
theorem mapM_eq_ok_iff {read : α → Except ε β} {items : List α} {results : List β} :
    items.mapM read = .ok results ↔
      List.Forall₂ (fun item result => read item = .ok result) items results := by
  induction items generalizing results with
  | nil =>
      rw [List.forall₂_nil_left_iff]
      exact ⟨fun read => (Except.ok.inj read).symm, fun none => none ▸ rfl⟩
  | cons item rest ih =>
      rw [List.mapM_cons, List.forall₂_cons_left_iff]
      constructor
      · intro all
        obtain ⟨first, made, all⟩ := exists_of_bind_eq_ok all
        obtain ⟨others, behind, all⟩ := exists_of_bind_eq_ok all
        exact ⟨first, others, made, ih.mp behind, (Except.ok.inj all).symm⟩
      · rintro ⟨first, others, made, behind, rfl⟩
        rw [made, ih.mpr behind]
        rfl

/-- An item may be exchanged for another that is read alike. -/
theorem mapM_exchange {read : α → Except ε β} {front back : List α} {old new : α}
    (alike : ∀ result, read old = .ok result → read new = .ok result) {results : List β}
    (all : (front ++ old :: back).mapM read = .ok results) :
    (front ++ new :: back).mapM read = .ok results := by
  rw [mapM_eq_ok_iff] at all ⊢
  induction front generalizing results with
  | nil =>
      obtain ⟨result, others, made, behind, rfl⟩ := List.forall₂_cons_left_iff.mp all
      exact .cons (alike result made) behind
  | cons item front ih =>
      obtain ⟨result, others, made, behind, rfl⟩ := List.forall₂_cons_left_iff.mp all
      exact .cons made (ih behind)

end PanelBoard
