import Mathlib.Data.Bool.AllAny
import Mathlib.Data.Option.Basic
import PanelBoard.Proofs.Text.Ascii
import PanelBoard.Proofs.Text.Split
import PanelBoard.Url.Idna.Domain

/-!
# Names that are looked up

Whatever a domain name is written with, the name that is looked up for it is in
ASCII and holds no character that would end the host.
-/

namespace PanelBoard.Url.Idna

open PanelBoard.Text

/-- May the character stand in a name that is looked up? -/
def isHostChar (c : Char) : Bool :=
  isAsciiChar c && !isForbidden c

namespace Punycode

theorem isHostChar_digitChar {value : Nat} (small : value < 36) :
    isHostChar (digitChar value) = true := by
  have all : ∀ value < 36, isHostChar (digitChar value) = true := by decide
  exact all value small

theorem isHostChar_encodeDelta (bias k delta : Nat) :
    ∀ c ∈ encodeDelta bias k delta, isHostChar c = true := by
  induction delta using Nat.strongRecOn generalizing k with
  | ind delta ih =>
      have bounds := threshold_bounds k bias
      rw [encodeDelta]
      intro c member
      split at member
      next small =>
        rw [List.mem_singleton.mp member]
        exact isHostChar_digitChar (by omega)
      next large =>
        rcases List.mem_cons.mp member with rfl | later
        · have rest :
              (delta - threshold k bias) % (36 - threshold k bias) < 36 - threshold k bias :=
            Nat.mod_lt _ (by omega)
          exact isHostChar_digitChar (by omega)
        · refine ih _ ?_ _ c later
          calc (delta - threshold k bias) / (36 - threshold k bias)
              ≤ delta - threshold k bias := Nat.div_le_self _ _
            _ < delta := by omega

/-- Has the encoder written nothing that may not stand in a name? -/
def Encoder.Clean (state : Encoder) : Prop :=
  ∀ c ∈ state.written, isHostChar c = true

theorem Encoder.Clean.pass {state : Encoder} (clean : state.Clean) (asciiCount code : Nat)
    (c : Char) : (state.pass asciiCount code c).Clean := by
  unfold Encoder.pass
  split
  · exact clean
  · split
    · exact List.forall_mem_append.mpr ⟨clean, isHostChar_encodeDelta _ _ _⟩
    · exact clean

theorem Encoder.Clean.foldl {state : Encoder} (clean : state.Clean) (asciiCount code : Nat)
    (label : List Char) : (label.foldl (Encoder.pass asciiCount code) state).Clean := by
  induction label generalizing state with
  | nil => exact clean
  | cons c label ih => exact ih (clean.pass asciiCount code c)

theorem isHostChar_encodeFrom {state : Encoder} (clean : state.Clean) (label : List Char)
    (asciiCount next : Nat) (codes : List Nat) :
    ∀ c ∈ encodeFrom label asciiCount next state codes, isHostChar c = true := by
  induction codes generalizing state next with
  | nil => exact clean
  | cons code codes ih =>
      rw [encodeFrom]
      have raised :
          Encoder.Clean { state with delta := state.delta + (code - next) * (state.coded + 1) } :=
        clean
      have passed := raised.foldl asciiCount code label
      apply ih
      exact passed

/-- A coded label holds nothing but its own characters in ASCII, hyphens and digits. -/
theorem isHostChar_encode {label : List Char} (allowed : ∀ c ∈ label, isForbidden c = false) :
    ∀ c ∈ encode label, isHostChar c = true := by
  have own : ∀ c ∈ label.filter (·.toNat < 0x80), isHostChar c = true := by
    intro c member
    obtain ⟨within, ascii⟩ := List.mem_filter.mp member
    rw [isHostChar, allowed c within, isAsciiChar, ascii]
    rfl
  apply isHostChar_encodeFrom
  intro c member
  simp only at member
  split at member
  · cases member
  · rcases List.mem_append.mp member with within | mark
    · exact own c within
    · rw [List.mem_singleton.mp mark]
      rfl

end Punycode

theorem exists_of_mapM_eq_some {α β : Type} {read : α → Option β} {xs : List α} {ys : List β}
    (all : xs.mapM read = some ys) : ∀ y ∈ ys, ∃ x ∈ xs, read x = some y := by
  induction xs generalizing ys with
  | nil =>
      cases all
      nofun
  | cons x xs ih =>
      simp only [List.mapM_cons, Option.bind_eq_bind, Option.bind_eq_some_iff] at all
      obtain ⟨first, reads, rest, others, same⟩ := all
      obtain rfl := Option.some.inj same
      intro y member
      rcases List.mem_cons.mp member with rfl | later
      · exact ⟨x, List.mem_cons_self, reads⟩
      · obtain ⟨source, within, reads⟩ := ih others y later
        exact ⟨source, List.mem_cons_of_mem _ within, reads⟩

/-- The label that is read for an allowed label is allowed. -/
theorem allowed_readLabel? {label read : List Char} (allowed : ∀ c ∈ label, isForbidden c = false)
    (reads : readLabel? label = some read) : ∀ c ∈ read, isForbidden c = false := by
  unfold readLabel? at reads
  split at reads
  · split at reads
    · obtain ⟨-, codable⟩ := Option.filter_eq_some_iff.mp reads
      simp only [isCodable, Bool.and_eq_true, List.all_eq_true] at codable
      intro c member
      simpa using (codable.1.2 c member).2
    · cases reads
  · cases reads
    exact allowed

theorem isHostChar_writeLabel {label : List Char} (allowed : ∀ c ∈ label, isForbidden c = false) :
    ∀ c ∈ writeLabel label, isHostChar c = true := by
  unfold writeLabel
  split
  next ascii =>
    intro c member
    have low := List.all_eq_true.mp ascii c member
    rw [isHostChar, allowed c member, isAsciiChar, low]
    rfl
  next =>
    have mark : ∀ c ∈ codedMark, isHostChar c = true :=
      List.all_iff_forall_prop.mp (by decide)
    exact List.forall_mem_append.mpr ⟨mark, Punycode.isHostChar_encode allowed⟩

/-- The name that is looked up holds only characters that may stand in a host. -/
theorem isHostChar_toAscii? {domain name : List Char} (looked : toAscii? domain = some name) :
    ∀ c ∈ name, isHostChar c = true := by
  obtain ⟨mapped, -, looked⟩ := Option.bind_eq_some_iff.mp looked
  obtain ⟨_, guarded, looked⟩ := Option.bind_eq_some_iff.mp looked
  obtain ⟨labels, read, looked⟩ := Option.bind_eq_some_iff.mp looked
  obtain ⟨-, -, looked⟩ := Option.bind_eq_some_iff.mp looked
  obtain ⟨-, -, written⟩ := Option.bind_eq_some_iff.mp looked
  have clean : ∀ c ∈ composed mapped, isForbidden c = false := by
    have none := (Option.guard_eq_some' _).mp guarded
    simpa using none
  have allowed : ∀ label ∈ labels, ∀ c ∈ label, isForbidden c = false := by
    intro label member
    obtain ⟨source, within, reads⟩ := exists_of_mapM_eq_some read label member
    have part := (forall_mem_splitOn _ _ _ within).1
    exact allowed_readLabel? (fun c own => clean c (part.subset own)) reads
  intro c member
  obtain rfl := Option.some.inj written
  rcases mem_of_mem_joinWith member with mark | ⟨label, within, own⟩
  · rw [List.mem_singleton.mp mark]
    rfl
  · obtain ⟨source, listed, rfl⟩ := List.mem_map.mp within
    exact isHostChar_writeLabel (allowed source listed) c own

end PanelBoard.Url.Idna
