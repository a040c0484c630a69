import Mathlib.Data.List.Infix
import PanelBoard.Dashboard.Markup

/-!
# Escaped text

Escaped text holds none of the characters that would end it, each of its ampersands
begins an entity, and replacing the entities gives back the text.
-/

namespace PanelBoard.Dashboard

/-- The five entities, each with the character that it stands for. -/
def entities : List (Char × List Char) :=
  [('&', "&amp;".toList), ('<', "&lt;".toList), ('>', "&gt;".toList), ('"', "&quot;".toList),
    ('\'', "&#39;".toList)]

/-- A character that has an entity is written as that, and every other one as itself. -/
theorem escapeChar_cases (c : Char) :
    (c, escapeChar c) ∈ entities ∨ escapeChar c = [c] ∧ c ∉ entities.map Prod.fst := by
  unfold escapeChar
  split
  case h_6 ampersand less greater quote apostrophe =>
    exact .inr ⟨rfl, by simpa [entities] using ⟨ampersand, less, greater, quote, apostrophe⟩⟩
  all_goals exact .inl (by decide)

/-- An entity begins with an ampersand, and nothing behind that has an entity itself. -/
theorem exists_entity_tail {c : Char} {written : List Char} (entity : (c, written) ∈ entities) :
    ∃ tail, written = '&' :: tail ∧ ∀ other ∈ tail, other ∉ entities.map Prod.fst := by
  have shape : ∀ entity ∈ entities, entity.2.head? = some '&' ∧
      ∀ other ∈ entity.2.tail, other ∉ entities.map Prod.fst := by
    simp [entities]
  obtain ⟨first, others⟩ := shape _ entity
  obtain ⟨tail, rfl⟩ := List.head?_eq_some_iff.mp first
  exact ⟨tail, rfl, others⟩

theorem escape_cons (c : Char) (cs : List Char) : escape (c :: cs) = escapeChar c ++ escape cs :=
  List.flatMap_cons

/-- Of the characters that have an entity only the ampersand is in escaped text. -/
theorem not_mem_escape {c : Char} (special : c ∈ entities.map Prod.fst) (other : c ≠ '&')
    {cs : List Char} : c ∉ escape cs := by
  intro member
  obtain ⟨origin, -, within⟩ := List.mem_flatMap.mp member
  obtain entity | ⟨plain, unspecial⟩ := escapeChar_cases origin
  · obtain ⟨tail, written, others⟩ := exists_entity_tail entity
    rw [written] at within
    obtain first | behind := List.mem_cons.mp within
    · exact other first
    · exact others c behind special
  · rw [plain, List.mem_singleton] at within
    exact unspecial (within ▸ special)

/-- An ampersand in what a character is written as stands in front of an entity. -/
theorem entity_of_escapeChar {c : Char} {before after : List Char}
    (parted : escapeChar c = before ++ '&' :: after) :
    before = [] ∧ (c, '&' :: after) ∈ entities := by
  obtain entity | ⟨plain, unspecial⟩ := escapeChar_cases c
  · obtain ⟨tail, written, others⟩ := exists_entity_tail entity
    cases before with
    | nil =>
        rw [parted] at entity
        exact ⟨rfl, entity⟩
    | cons first before =>
        have behind : tail = before ++ '&' :: after := (List.cons.inj (written.symm.trans parted)).2
        exact absurd (by decide) (others '&' (by simp [behind]))
  · have inside : '&' ∈ [c] := by simp [← plain, parted]
    exact absurd (by decide) (List.mem_singleton.mp inside ▸ unspecial)

/-- An ampersand in escaped text begins an entity. -/
theorem entity_of_escape {cs before after : List Char}
    (parted : escape cs = before ++ '&' :: after) :
    ∃ entity ∈ entities, entity.2 <+: '&' :: after := by
  induction cs generalizing before with
  | nil => simp [escape] at parted
  | cons c cs ih =>
      rw [escape_cons] at parted
      obtain ⟨behind, -, later⟩ | ⟨own, written, rest⟩ := List.append_eq_append_iff.mp parted
      · exact ih later
      · cases own with
        | nil =>
            have first : escape cs = [] ++ '&' :: after := rest.symm
            exact ih first
        | cons first tail =>
            obtain ⟨rfl, rfl⟩ := List.cons.inj rest
            exact ⟨_, (entity_of_escapeChar written).2, escape cs, rfl⟩

/-- What a character is written as is read as the character. -/
theorem unescape_escapeChar (c : Char) (rest : List Char) :
    unescape (escapeChar c ++ rest) = c :: unescape rest := by
  unfold escapeChar
  split
  case h_6 noAmpersand _ _ _ _ =>
    rw [List.singleton_append, unescape]
    all_goals
      intro _ same
      exact (noAmpersand same).elim
  all_goals rfl

/-- Escaped text is read as the text. -/
theorem unescape_escape (cs : List Char) : unescape (escape cs) = cs := by
  induction cs with
  | nil => rfl
  | cons c cs ih => rw [escape_cons, unescape_escapeChar, ih]

theorem escape_injective : Function.Injective escape :=
  Function.LeftInverse.injective unescape_escape

end PanelBoard.Dashboard
