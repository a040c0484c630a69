import PanelBoard.Http.Exchange
import PanelBoard.Proofs.Http.Readers

/-!
# Replies

What it means for bytes to begin with a final head and to carry a whole body behind
it, said without a bound on the number of heads or chunks. Readers find exactly
that, and they find the same when more bytes follow.
-/

namespace PanelBoard.Http

/-! ## Heads -/

/-- Bytes begin with any number of interim heads and one that is final; `rest` is behind it. -/
inductive FinalHead : List UInt8 → Head → List UInt8 → Prop where
  | here {bytes rest : List UInt8} {first : Head} (read : head bytes = .complete first rest)
      (final : first.isInterim = false) : FinalHead bytes first rest
  | later {bytes middle rest : List UInt8} {interim final : Head}
      (read : head bytes = .complete interim middle) (passed : interim.isInterim = true)
      (next : FinalHead middle final rest) : FinalHead bytes final rest

/-- Bytes begin with a final head that announces a framing. -/
structure Headed (bytes : List UInt8) (head : Head) (framing : Framing) (rest : List UInt8) :
    Prop where
  final : FinalHead bytes head rest
  framed : head.framing? = some framing

theorem finalHead_of_within {fuel : Nat} {bytes rest : List UInt8} {final : Head}
    (read : finalHeadWithin fuel bytes = .complete final rest) : FinalHead bytes final rest := by
  induction fuel generalizing bytes with
  | zero => cases read
  | succ fuel ih =>
      rw [finalHeadWithin] at read
      obtain ⟨first, middle, front, next⟩ := Reader.bind_eq_complete_iff.mp read
      split at next
      next passed => exact .later front passed (ih next)
      next stays =>
        cases next
        exact .here front (by simpa using stays)

/-- Fuel for every byte is enough, since no head is empty. -/
theorem FinalHead.within {bytes rest : List UInt8} {final : Head}
    (headed : FinalHead bytes final rest) {fuel : Nat} (enough : bytes.length < fuel) :
    finalHeadWithin fuel bytes = .complete final rest := by
  induction headed generalizing fuel with
  | here read stays =>
      obtain ⟨fuel, rfl⟩ := Nat.exists_eq_add_one_of_ne_zero (Nat.ne_zero_of_lt enough)
      rw [finalHeadWithin, Reader.bind_complete read, if_neg (by simp [stays])]
      rfl
  | later read passed _ ih =>
      obtain ⟨fuel, rfl⟩ := Nat.exists_eq_add_one_of_ne_zero (Nat.ne_zero_of_lt enough)
      have shorter := Reader.Hungry.head _ _ _ read
      rw [finalHeadWithin, Reader.bind_complete read, if_pos passed]
      exact ih (by omega)

theorem finalHead_eq_complete_iff {bytes rest : List UInt8} {final : Head} :
    finalHead bytes = .complete final rest ↔ FinalHead bytes final rest :=
  ⟨finalHead_of_within, fun headed => headed.within (Nat.lt_succ_self _)⟩

theorem framedHead_eq_complete_iff {bytes rest : List UInt8} {final : Head}
    {framing : Framing} :
    Report.framedHead bytes = .complete (final, framing) rest ↔
      Headed bytes final framing rest := by
  rw [Report.framedHead, Reader.bind_eq_complete_iff]
  constructor
  · rintro ⟨first, middle, read, next⟩
    cases framed : first.framing? with
    | none =>
        rw [framed] at next
        cases next
    | some announced =>
        rw [framed] at next
        cases next
        exact ⟨finalHead_eq_complete_iff.mp read, framed⟩
  · rintro ⟨headed, framed⟩
    exact ⟨final, rest, finalHead_eq_complete_iff.mpr headed, by rw [framed]; rfl⟩

theorem steady_framedHead : Reader.Steady Report.framedHead := by
  refine .bind .finalHead fun head => ?_
  cases head.framing? with
  | none => exact .fail
  | some framing => exact .pure (head, framing)

theorem Headed.append {bytes rest : List UInt8} {final : Head} {framing : Framing}
    (headed : Headed bytes final framing rest) (more : List UInt8) :
    Headed (bytes ++ more) final framing (rest ++ more) :=
  framedHead_eq_complete_iff.mp
    (steady_framedHead.grows (framedHead_eq_complete_iff.mpr headed) more)

/-- Bytes begin with one final head at most. -/
theorem Headed.unique {bytes rest rest' : List UInt8} {final final' : Head}
    {framing framing' : Framing} (first : Headed bytes final framing rest)
    (second : Headed bytes final' framing' rest') :
    final = final' ∧ framing = framing' ∧ rest = rest' := by
  have read := framedHead_eq_complete_iff.mpr first
  rw [framedHead_eq_complete_iff.mpr second] at read
  cases read
  exact ⟨rfl, rfl, rfl⟩

/-- A final head decides what is reported of a reply. -/
theorem Headed.ofReply {reply rest : List UInt8} {head : Head} {framing : Framing}
    (headed : Headed reply head framing rest) (isHeld : Bool) :
    Report.ofReply reply isHeld = .ofHead isHeld head framing rest := by
  rw [Report.ofReply, framedHead_eq_complete_iff.mpr headed]

/-- A digit stands for a number below ten. -/
theorem digit_bound {byte : UInt8} {bytes rest : List UInt8}
    (read : byteWhere isDigit bytes = .complete byte rest) : byte.toNat - 0x30 < 10 := by
  cases bytes with
  | nil => cases read
  | cons front bytes =>
      rw [byteWhere] at read
      split at read
      next accepted =>
        cases read
        rw [isDigit, Bool.and_eq_true] at accepted
        have high : byte.toNat ≤ 0x39 := UInt8.le_iff_toNat_le.mp (of_decide_eq_true accepted.2)
        omega
      next => cases read

/-- A status has three digits and does not begin with zero. -/
theorem status_bounds {bytes rest : List UInt8} {first : Head}
    (read : head bytes = .complete first rest) : 100 ≤ first.status ∧ first.status < 1000 := by
  obtain ⟨_, read, -⟩ := Reader.within_eq_complete_iff.mp read
  simp only [headLines, Reader.bind_eq_complete_iff] at read
  obtain ⟨_, _, -, version, _, -, _, _, -, status, _, coded, _, _, -, fields, _, -, _, _, limited,
    made⟩ := read
  simp only [statusCode, Reader.bind_eq_complete_iff] at coded
  obtain ⟨hundreds, _, first, tens, _, second, ones, _, third, value⟩ := coded
  have := digit_bound first
  have := digit_bound second
  have := digit_bound third
  have three : status = (hundreds.toNat - 0x30) * 100 + (tens.toNat - 0x30) * 10 +
      (ones.toNat - 0x30) := (Reading.complete.inj value).1.symm
  have enough : minStatus ≤ status := by
    rw [Reader.ensure] at limited
    split at limited
    next holds => exact of_decide_eq_true (Bool.and_eq_true_iff.mp holds).1
    next => cases limited
  have small : status < 1000 := by omega
  cases made
  exact ⟨enough, small⟩

/-! ## Chunks -/

/-- Bytes begin with chunks, which are filled but for the last; `rest` is behind the
fields that may follow them. So many bytes were spent on extensions before. -/
inductive Chunked : Nat → List UInt8 → List UInt8 → List UInt8 → Prop where
  | last {spent later : Nat} {bytes middle rest : List UInt8}
      (size : sizeLine spent bytes = .complete (0, later) middle)
      (trailed : trailers middle = .complete () rest) : Chunked spent bytes [] rest
  | filled {spent later : Nat} {bytes chunk middle body rest : List UInt8}
      (size : sizeLine spent bytes =
        .complete (chunk.length, later) (chunk ++ lineBreak ++ middle))
      (filled : chunk ≠ []) (others : Chunked later middle body rest) :
      Chunked spent bytes (chunk ++ body) rest

theorem chunked_of_within {fuel spent : Nat} {bytes body rest : List UInt8}
    (read : chunksWithin fuel spent bytes = .complete body rest) :
    Chunked spent bytes body rest := by
  induction fuel generalizing spent bytes body with
  | zero => cases read
  | succ fuel ih =>
      rw [chunksWithin] at read
      obtain ⟨⟨size, later⟩, middle, sized, next⟩ := Reader.bind_eq_complete_iff.mp read
      dsimp only at next
      split at next
      next empty =>
        obtain ⟨_, left, trailed, made⟩ := Reader.bind_eq_complete_iff.mp next
        cases made
        exact .last (empty ▸ sized) trailed
      next filled =>
        obtain ⟨chunk, behind, taken, next⟩ := Reader.bind_eq_complete_iff.mp next
        obtain ⟨_, left, ended, next⟩ := Reader.bind_eq_complete_iff.mp next
        obtain ⟨others, _, found, made⟩ := Reader.bind_eq_complete_iff.mp next
        cases made
        obtain ⟨rfl, rfl⟩ := Reader.take_eq_complete_iff.mp taken
        obtain rfl := Reader.expect_eq_complete_iff.mp ended
        exact .filled (by simpa using sized) (fun none => filled (by simp [none])) (ih found)

/-- Fuel for every byte is enough, since no line of a size is empty. -/
theorem Chunked.within {spent : Nat} {bytes body rest : List UInt8}
    (chunked : Chunked spent bytes body rest) {fuel : Nat} (enough : bytes.length < fuel) :
    chunksWithin fuel spent bytes = .complete body rest := by
  induction chunked generalizing fuel with
  | last sized trailed =>
      obtain ⟨fuel, rfl⟩ := Nat.exists_eq_add_one_of_ne_zero (Nat.ne_zero_of_lt enough)
      rw [chunksWithin, Reader.bind_complete sized]
      dsimp only
      rw [if_pos rfl, Reader.bind_complete trailed]
      rfl
  | @filled spent later bytes chunk middle body rest sized filled others ih =>
      obtain ⟨fuel, rfl⟩ := Nat.exists_eq_add_one_of_ne_zero (Nat.ne_zero_of_lt enough)
      have shorter := Reader.Hungry.sizeLine _ _ _ _ sized
      have counted : chunk.length ≠ 0 := fun none => filled (List.length_eq_zero_iff.mp none)
      simp only [List.length_append] at shorter
      rw [chunksWithin, Reader.bind_complete sized]
      dsimp only
      rw [if_neg counted,
        Reader.bind_complete (List.append_assoc .. ▸ take_append chunk _),
        Reader.bind_complete (expect_append lineBreak middle),
        Reader.bind_complete (ih (by omega))]
      rfl

theorem chunks_eq_complete_iff {bytes body rest : List UInt8} :
    chunks bytes = .complete body rest ↔ Chunked 0 bytes body rest :=
  ⟨chunked_of_within, fun chunked => chunked.within (Nat.lt_succ_self _)⟩

/-! ## Bodies -/

/-- The bytes behind a head hold a whole body. Only the end of a connection ends a body
whose end nothing announces. -/
inductive Carries (isHeld : Bool) : Framing → List UInt8 → List UInt8 → Prop where
  | absent (bytes : List UInt8) : Carries isHeld .absent bytes []
  | sized (body extra : List UInt8) : Carries isHeld (.sized body.length) (body ++ extra) body
  | chunked {bytes body rest : List UInt8} (chunks : Chunked 0 bytes body rest) :
      Carries isHeld .chunked bytes body
  | untilClose (closed : isHeld = false) (bytes : List UInt8) :
      Carries isHeld .untilClose bytes bytes

theorem arrival_eq_whole_iff {α : Type} {isHeld : Bool} {reading : Reading α} {value : α} :
    reading.arrival isHeld = .whole value ↔ ∃ rest, reading = .complete value rest := by
  cases reading with
  | complete => simp [Reading.arrival]
  | unfinished => cases isHeld <;> simp [Reading.arrival]
  | broken => simp [Reading.arrival]

theorem carries_iff {isHeld : Bool} {framing : Framing} {bytes body : List UInt8} :
    framing.arrival isHeld bytes = .whole body ↔ Carries isHeld framing bytes body := by
  constructor
  · intro arrived
    cases framing with
    | absent =>
        cases arrived
        exact .absent bytes
    | sized length =>
        obtain ⟨rest, taken⟩ := arrival_eq_whole_iff.mp arrived
        obtain ⟨rfl, rfl⟩ := Reader.take_eq_complete_iff.mp taken
        exact .sized body rest
    | chunked =>
        obtain ⟨rest, read⟩ := arrival_eq_whole_iff.mp arrived
        exact .chunked (chunks_eq_complete_iff.mp read)
    | untilClose =>
        cases isHeld with
        | true => cases arrived
        | false =>
            cases arrived
            exact .untilClose rfl bytes
  · rintro (_ | ⟨body, extra⟩ | read | closed)
    · rfl
    · exact arrival_eq_whole_iff.mpr ⟨extra, take_append body extra⟩
    · exact arrival_eq_whole_iff.mpr ⟨_, chunks_eq_complete_iff.mpr read⟩
    · rw [Framing.arrival, closed]
      rfl

/-- What is lost while the connection is held open stays lost, whatever comes. -/
theorem lost_append {framing : Framing} {bytes : List UInt8}
    (lost : framing.arrival true bytes = .lost) (more : List UInt8) :
    framing.arrival true (bytes ++ more) = .lost := by
  have refused {α : Type} {reading : Reading α} :
      reading.arrival true = .lost ↔ reading = .broken := by
    cases reading <;> simp [Reading.arrival]
  cases framing with
  | absent | untilClose => cases lost
  | sized length => exact refused.mpr ((Reader.Steady.take length).stays (refused.mp lost) more)
  | chunked => exact refused.mpr (Reader.Steady.chunks.stays (refused.mp lost) more)

/-- Only on a connection that is held open is anything awaited. -/
theorem held_of_awaited {isHeld : Bool} {framing : Framing} {bytes : List UInt8}
    (awaited : framing.arrival isHeld bytes = .awaited) : isHeld = true := by
  cases isHeld with
  | true => rfl
  | false =>
      have settled {α : Type} (reading : Reading α) : reading.arrival false ≠ .awaited := by
        cases reading <;> simp [Reading.arrival]
      cases framing with
      | absent => cases awaited
      | sized length => exact absurd awaited (settled _)
      | chunked => exact absurd awaited (settled _)
      | untilClose => cases awaited

end PanelBoard.Http
