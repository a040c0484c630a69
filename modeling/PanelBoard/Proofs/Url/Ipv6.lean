import PanelBoard.Proofs.Text.Numerals
import PanelBoard.Proofs.Text.Split
import PanelBoard.Url.Ipv6

/-!
# Addresses of eight pieces

A written address is read as eight pieces, and what is printed of them are
hexadecimal digits and at most seven colons.
-/

namespace PanelBoard.Url.Ipv6

open PanelBoard.Text

/-! ## Reading -/

theorem taken_append (state : Progress) (more : List Nat) :
    { state with pieces := state.pieces ++ more : Progress }.taken = state.taken + more.length := by
  simp only [Progress.taken, List.length_append]
  omega

theorem length_dottedTail? {cs : List Char} {tail : List Nat} (read : dottedTail? cs = some tail) :
    tail.length = 2 := by
  unfold dottedTail? at read
  split at read
  · cases read
    rfl
  · cases read

/-- No more than eight places are ever taken. -/
theorem taken_readPieces {fuel : Nat} {state result : Progress} {cs : List Char}
    (few : state.taken ≤ 8) (read : readPieces fuel state cs = some result) :
    result.taken ≤ 8 := by
  induction fuel generalizing state cs with
  | zero => cases read
  | succ fuel ih =>
      unfold readPieces at read
      split at read
      next => exact Option.some.inj read ▸ few
      next c rest =>
        split at read
        next => cases read
        next room =>
          have one (value : Nat) :
              { state with pieces := state.pieces ++ [value] : Progress }.taken ≤ 8 := by
            rw [taken_append, List.length_singleton]
            omega
          split at read
          next =>
            split at read
            next => cases read
            next noGap =>
              refine ih ?_ read
              rw [Option.not_isSome_iff_eq_none] at noGap
              simp only [Progress.taken, noGap] at few room ⊢
              simp only [Option.isSome_none, Option.isSome_some] at few room ⊢
              grind
          next =>
            simp only at read
            split at read
            next => exact Option.some.inj read ▸ one _
            next =>
              split at read
              next => cases read
              next early =>
                obtain ⟨tail, dotted, rfl⟩ := Option.map_eq_some_iff.mp read
                simp only [Bool.or_eq_true, decide_eq_true_eq] at early
                rw [taken_append, length_dottedTail? dotted]
                omega
            next => cases read
            next => exact ih (one _) read
            next => cases read

/-- A written address has eight pieces. -/
theorem length_parse? {cs : List Char} {pieces : List Nat} (read : parse? cs = some pieces) :
    pieces.length = 8 := by
  have closed {state : Progress} (few : state.taken ≤ 8) (close : state.close? = some pieces) :
      pieces.length = 8 := by
    unfold Progress.close? at close
    unfold Progress.taken at few
    split at close
    next place gap =>
      rw [← Option.some.inj close]
      simp only [gap, Option.isSome_some, if_true] at few
      simp only [List.length_append, List.length_take, List.length_replicate, List.length_drop]
      omega
    next =>
      split at close
      next full => exact Option.some.inj close ▸ full
      next => cases close
  simp only [parse?, Option.bind_eq_bind] at read
  split at read
  next =>
    obtain ⟨state, pieced, close⟩ := Option.bind_eq_some_iff.mp read
    exact closed (taken_readPieces (by decide) pieced) close
  next => cases read
  next =>
    obtain ⟨state, pieced, close⟩ := Option.bind_eq_some_iff.mp read
    exact closed (taken_readPieces (by decide) pieced) close

/-! ## Printing -/

/-- A run of zeros lies within the pieces. -/
theorem longestZeroRun_within (pieces : List Nat) :
    (longestZeroRun pieces).1 + (longestZeroRun pieces).2 ≤ pieces.length := by
  unfold longestZeroRun
  have kept (starts : List Nat) (best : Nat × Nat) (within : best.1 + best.2 ≤ pieces.length)
      (listed : ∀ start ∈ starts, start < pieces.length) :
      let found := starts.foldl (fun best start =>
        let run := ((pieces.drop start).takeWhile (· == 0)).length
        if best.2 < run then (start, run) else best) best
      found.1 + found.2 ≤ pieces.length := by
    induction starts generalizing best with
    | nil => exact within
    | cons start starts ih =>
        apply ih
        · have short := (List.takeWhile_sublist (· == 0) (l := pieces.drop start)).length_le
          have inside := listed start List.mem_cons_self
          rw [List.length_drop] at short
          simp only
          split
          · simp only
            omega
          · exact within
        · exact fun other member => listed other (List.mem_cons_of_mem _ member)
  apply kept
  · exact Nat.zero_le _
  · exact fun start member => List.mem_range.mp member

/-- Is the character a hexadecimal digit in small letters? -/
def isLowerHexDigit (c : Char) : Bool :=
  ((List.range 16).map Nat.digitChar).contains c

theorem isLowerHexDigit_of_mem_lowerHex {n : Nat} {c : Char} (member : c ∈ lowerHex n) :
    isLowerHexDigit c = true := by
  obtain ⟨digit, small, rfl⟩ := mem_toDigits (by decide) member
  exact List.contains_iff_mem.mpr (List.mem_map_of_mem (List.mem_range.mpr small))

/-- Pieces are printed with one colon fewer than there are pieces. -/
theorem count_colons_written (pieces : List Nat) :
    (joinWith [':'] (pieces.map lowerHex)).count ':' = pieces.length - 1 := by
  have none (n : Nat) : (lowerHex n).count ':' = 0 := by
    apply List.count_eq_zero.mpr
    intro member
    cases isLowerHexDigit_of_mem_lowerHex member
  induction pieces with
  | nil => rfl
  | cons piece rest ih =>
      cases rest with
      | nil => exact none piece
      | cons second rest =>
          change (lowerHex piece ++ [':'] ++ joinWith [':'] ((second :: rest).map lowerHex)).count
            ':' = _
          rw [List.count_append, List.count_append, none, ih]
          simp only [List.count_singleton_self, List.length_cons]
          omega

/-- Eight pieces are printed with at most seven colons. -/
theorem count_colons_render {pieces : List Nat} (eight : pieces.length = 8) :
    (render pieces).count ':' ≤ 7 := by
  have within := longestZeroRun_within pieces
  unfold render
  simp only
  split
  · rw [count_colons_written]
    omega
  · rw [List.count_append, List.count_append, count_colons_written, count_colons_written,
      List.length_take, List.length_drop]
    simp only [List.count_cons, List.count_nil]
    grind

theorem chars_render (pieces : List Nat) :
    ∀ c ∈ render pieces, isLowerHexDigit c = true ∨ c = ':' := by
  have written (pieces : List Nat) :
      ∀ c ∈ joinWith [':'] (pieces.map lowerHex), isLowerHexDigit c = true ∨ c = ':' := by
    intro c member
    rcases mem_of_mem_joinWith member with mark | ⟨text, listed, own⟩
    · exact .inr (List.mem_singleton.mp mark)
    · obtain ⟨piece, -, rfl⟩ := List.mem_map.mp listed
      exact .inl (isLowerHexDigit_of_mem_lowerHex own)
  unfold render
  simp only
  split
  · exact written pieces
  · refine List.forall_mem_append.mpr ⟨List.forall_mem_append.mpr ⟨written _, ?_⟩, written _⟩
    simp

end PanelBoard.Url.Ipv6
