import PanelBoard.Proofs.Http.Courses
import PanelBoard.Proofs.Http.Written
import PanelBoard.Proofs.Poll.Completions

/-!
# Texts of replies

A text arrives whole or not at all. However a reply with status 200 frames it, the
whole reply is reported with exactly the text; a reply that ends by itself and is
cut off before its end is reported as a failure, and no loop shows a part of it.
-/

namespace PanelBoard.Http

open PanelBoard.Poll PanelBoard.Text

/-- A reply with status 200 that ends by itself, cut behind its head: a body of the
length that the head announces, or one in chunks. -/
inductive Delimited (body : List UInt8) : List UInt8 → List UInt8 → Prop where
  | sized {front : List UInt8} (announced : Announces 200 (.sized body.length) front) :
      Delimited body front body
  | chunked {front tail : List UInt8} (announced : Announces 200 .chunked front)
      (chunks : Chunked 0 tail body []) : Delimited body front tail

/-- The report of a text with status 200. -/
def Report.ofText (text : String) : Report :=
  { changes := [.opened, .headersReceived 200, .loading 200, .done 200 text], isOpen := false }

/-- The report of a reply with status 200 that broke off, behind its head or before. -/
def Report.brokenOff (isHeaded : Bool) : Report :=
  { changes :=
      if isHeaded then [.opened, .headersReceived 200, .loading 200, .done 0 ""]
      else [.opened, .done 0 ""]
    isOpen := false }

/-! ## Reports of closed connections -/

section Reports

variable {reply rest : List UInt8} {head : Head} {framing : Framing} {isHeld : Bool}

theorem ofReply_of_carried {body : List UInt8} (headed : Headed reply head framing rest)
    (carried : Carries isHeld framing rest body) :
    Report.ofReply reply isHeld =
      { changes := [.headersReceived head.status.toUInt16, .loading head.status.toUInt16,
          .done head.status.toUInt16 (String.ofList (Utf8.decodeLossy body))]
        isOpen := false } := by
  rw [headed.ofReply, Report.ofHead, carries_iff.mpr carried]
  rfl

theorem ofReply_of_lost (headed : Headed reply head framing rest)
    (lost : ∀ body, ¬ Carries false framing rest body) :
    Report.ofReply reply false =
      { changes := [.headersReceived head.status.toUInt16, .loading head.status.toUInt16,
          .networkError]
        isOpen := false } := by
  rw [headed.ofReply, Report.ofHead]
  cases arrived : framing.arrival false rest with
  | whole body => exact absurd (carries_iff.mp arrived) (lost body)
  | awaited => exact absurd (held_of_awaited arrived) (by decide)
  | lost => rfl

theorem ofReply_of_headless (headless : Headless reply) :
    Report.ofReply reply false = .failed := by
  rw [Report.ofReply]
  cases read : Report.framedHead reply with
  | complete value rest => exact (headless _ _ _ (framedHead_eq_complete_iff.mp read)).elim
  | unfinished | broken => rfl

end Reports

/-! ## Cutting replies -/

/-- A head of which bytes are missing is no head. -/
theorem Headed.headless_of_cut {cut more : List UInt8} {head : Head} {framing : Framing}
    (headed : Headed (cut ++ more) head framing []) (missing : more ≠ []) : Headless cut := by
  intro other announced rest early
  obtain ⟨-, -, none⟩ := (early.append more).unique headed
  exact missing (List.append_eq_nil_iff.mp none).2

/-- A body of which bytes are missing does not have its length. -/
theorem lost_of_cut_sized {isHeld : Bool} {part more : List UInt8} (missing : more ≠ [])
    (body : List UInt8) : ¬ Carries isHeld (.sized (part ++ more).length) part body := by
  intro carried
  have positive := List.length_pos_iff.mpr missing
  generalize total : (part ++ more).length = length at carried
  cases carried
  simp only [List.length_append] at total
  omega

/-- Chunks of which bytes are missing are no body. -/
theorem lost_of_cut_chunked {isHeld : Bool} {part more body : List UInt8}
    (chunked : Chunked 0 (part ++ more) body []) (missing : more ≠ []) (other : List UInt8) :
    ¬ Carries isHeld .chunked part other := by
  rintro (_ | _ | early)
  have grown := Reader.Steady.chunks.grows (chunks_eq_complete_iff.mpr early) more
  rw [chunks_eq_complete_iff.mpr chunked] at grown
  exact missing (List.append_eq_nil_iff.mp (Reading.complete.inj grown).2.symm).2

section Cutting

variable {front tail : List UInt8}

/-- A text is read off its bytes. -/
theorem ofList_decodeLossy (text : String) :
    String.ofList (Utf8.decodeLossy (Utf8.bytes text)) = text := by
  rw [Utf8.bytes, Utf8.decodeLossy_of_decode? (Utf8.decode?_encode text.toList),
    String.ofList_toList]

/-- A whole reply is reported with its text. -/
theorem report_of_announced {text : String} {framing : Framing} {isHeld : Bool}
    (announced : Announces 200 framing front)
    (carried : Carries isHeld framing tail (Utf8.bytes text)) :
    Report.after .opened (.ofReply (front ++ tail) isHeld) = .ofText text := by
  obtain ⟨-, head, headed, -, status⟩ := announced
  rw [ofReply_of_carried (headed.append tail) carried, status, ofList_decodeLossy]
  rfl

/-- A reply that ends by itself carries its body, and no part of it does. -/
theorem Delimited.carries {body : List UInt8} (delimited : Delimited body front tail) :
    ∃ framing, Announces 200 framing front ∧ (∀ isHeld, Carries isHeld framing tail body) ∧
      ∀ part more, part ++ more = tail → more ≠ [] →
        ∀ other, ¬ Carries false framing part other := by
  cases delimited with
  | sized announced =>
      refine ⟨_, announced, fun _ => ?_, ?_⟩
      · simpa using Carries.sized tail []
      · rintro part more rfl missing
        exact lost_of_cut_sized missing
  | chunked announced chunks =>
      refine ⟨_, announced, fun _ => .chunked chunks, ?_⟩
      rintro part more rfl missing
      exact lost_of_cut_chunked chunks missing

/-- A reply that ends by itself is reported as broken off wherever it is cut. -/
theorem Delimited.report_of_cut {body : List UInt8} (delimited : Delimited body front tail)
    {cut lost : List UInt8} (whole : cut ++ lost = front ++ tail) (missing : lost ≠ []) :
    Report.after .opened (.ofReply cut false) = .brokenOff (front.length ≤ cut.length) := by
  obtain ⟨framing, ⟨-, head, headed, -, status⟩, -, incomplete⟩ := delimited.carries
  have fronts : cut <+: front ++ tail ∧ front <+: front ++ tail :=
    ⟨whole ▸ List.prefix_append .., List.prefix_append ..⟩
  by_cases behind : front.length ≤ cut.length
  · obtain ⟨part, rfl⟩ := List.prefix_of_prefix_length_le fronts.2 fronts.1 behind
    rw [List.append_assoc, List.append_cancel_left_eq] at whole
    rw [ofReply_of_lost (headed.append part) (incomplete part lost whole missing), status,
      decide_eq_true behind]
    rfl
  · obtain ⟨more, rfl⟩ := List.prefix_of_prefix_length_le fronts.1 fronts.2 (by omega)
    have within : more ≠ [] := by
      rintro rfl
      simp at behind
    rw [ofReply_of_headless (headed.headless_of_cut within), decide_eq_false behind]
    rfl

end Cutting

/-! ## What loops show of replies -/

section Handling

variable {board : Board} {index : Nat} {loop : Loop}

/-- Changes that complete nothing touch nothing but the log. -/
theorem handleAll_of_incomplete (present : board.loops[index]? = some loop)
    {changes : List Response} (incomplete : ∀ change ∈ changes, change.isComplete = false) :
    board.handleAll (changes.map (index, ·)) =
      { board with log := board.log ++ changes.map (.notComplete ·.state) } := by
  induction changes generalizing board with
  | nil => simp [Board.handleAll]
  | cons change changes ih =>
      obtain ⟨first, others⟩ := List.forall_mem_cons.mp incomplete
      have handled := Board.handle_of_incomplete present first
      have later := @ih (board.handle index change).2 (by rw [handled]; exact present) others
      rw [handled] at later
      simp only [Board.handleAll, List.map_cons, List.foldl_cons, handled] at later ⊢
      rw [later]
      simp

/-- What a loop makes of changes of which the last alone is a completion. -/
theorem handleAll_of_completion (present : board.loops[index]? = some loop)
    {early : List Response} (incomplete : ∀ change ∈ early, change.isComplete = false)
    (completion : Response) (complete : completion.isComplete = true) :
    let after := board.handleAll ((early ++ [completion]).map (index, ·))
    (after.loops[index]?).map (·.streak) = some (.since (some completion)) ∧
      after.display =
        { regions := (loop.streak.outcome completion).write loop.request.target
            board.failureMessage completion.body board.display.regions
          metrics := (board.display.metrics.recordStatus loop.request.target
            completion.status).recordCycle loop.request.target
              (loop.streak.outcome completion).label (failuresSince (some completion)) } := by
  intro after
  let waiting : Board := { board with log := board.log ++ early.map (.notComplete ·.state) }
  have handled : after = (waiting.handle index completion).2 := by
    have early := handleAll_of_incomplete present incomplete
    simp only [after, waiting, ← early, List.map_append, Board.handleAll, List.foldl_append]
    rfl
  have still : waiting.loops[index]? = some loop := present
  rw [handled]
  constructor
  · rw [Board.handle_loops, List.getElem?_modify_eq, still]
    simp [Streak.after_of_complete _ complete]
  · rw [Board.handle_display_of_complete still complete, Streak.after_of_complete _ complete,
      Streak.failures_since]

end Handling

/-- A reply that broke off is reported by one completion, the last change. -/
theorem exists_early_brokenOff (isHeaded : Bool) :
    ∃ early : List Response, (∀ change ∈ early, change.isComplete = false) ∧
      early ++ [.networkError] = (Report.brokenOff isHeaded).changes := by
  cases isHeaded with
  | true => exact ⟨_, fun change member => (early_loading 200 change member).1, rfl⟩
  | false => exact ⟨[.opened], by decide, rfl⟩

/-- A GET that meets a connection reports so, on every network and under every name. -/
def Reports (connection : Connection) (report : Report) : Prop :=
  ∀ network userAgent url, reached network userAgent url = some connection →
    (get network userAgent url).report = report

theorem reports_ofConnection (connection : Connection) :
    Reports connection (.after .opened (.ofConnection connection)) := by
  intro network userAgent url met
  rw [reached] at met
  obtain ⟨request, made, rfl⟩ := Option.map_eq_some_iff.mp met
  rw [get, made]

/-- A text arrives whole or not at all. The written replies with the text are such as end
by themselves, or where the connection is closed, and are reported with the text. So are
all other whole replies with it, however they are written, if their heads and what they put
around chunks are within the limits of a reader. A loop shows the text; replies that are cut
off are reported as broken off, which a loop counts as a failure and shows nothing of. -/
structure ArrivesWhole (text : String) : Prop where
  sized : (Utf8.bytes text).length ≤ maxBodyLength →
    Delimited (Utf8.bytes text) (sizedHead 200 (Utf8.bytes text).length) (Utf8.bytes text)
  chunked : ∀ parts, parts.flatten = Utf8.bytes text →
    (∀ part ∈ parts, part ≠ [] ∧ part.length < sizeBound) →
      Delimited (Utf8.bytes text) (chunkedHead 200) (writeChunks parts)
  openEnded : Announces 200 .untilClose (writeStatusLine 200 ++ lineBreak)
  sizedWhole : (Utf8.bytes text).length ≤ maxBodyLength → ∀ isHeld,
    Reports (.answered (sizedReply 200 (Utf8.bytes text)) isHeld) (.ofText text)
  chunkedWhole : ∀ parts, parts.flatten = Utf8.bytes text →
    (∀ part ∈ parts, part ≠ [] ∧ part.length < sizeBound) → ∀ isHeld,
      Reports (.answered (chunkedReply 200 parts) isHeld) (.ofText text)
  openEndedWhole : Reports (.answered (openEndedReply 200 (Utf8.bytes text)) false) (.ofText text)
  whole : ∀ front tail, Delimited (Utf8.bytes text) front tail → ∀ isHeld,
    Reports (.answered (front ++ tail) isHeld) (.ofText text)
  closed : ∀ front, Announces 200 .untilClose front →
    Reports (.answered (front ++ Utf8.bytes text) false) (.ofText text)
  cut : ∀ front tail, Delimited (Utf8.bytes text) front tail → ∀ part lost,
    part ++ lost = front ++ tail → lost ≠ [] →
      Reports (.answered part false) (.brokenOff (front.length ≤ part.length))
  shown : ∀ (board : Board) index loop, board.loops[index]? = some loop →
    let after := board.handleAll ((Report.ofText text).changes.map (index, ·))
    let target := loop.request.target
    (after.loops[index]?).map (·.streak) = some .clear ∧
      after.display.regions = board.display.regions.setContent target text ∧
      after.display.metrics =
        (board.display.metrics.recordStatus target 200).recordCycle target "success" 0
  failed : ∀ isHeaded (board : Board) index loop, board.loops[index]? = some loop →
    let after := board.handleAll ((Report.brokenOff isHeaded).changes.map (index, ·))
    let target := loop.request.target
    (after.loops[index]?).map (·.streak) = some .tolerating ∧
      (after.display.regions = match loop.streak with
        | .clear => board.display.regions
        | .tolerating => board.display.regions.setContent target board.failureMessage) ∧
      after.display.metrics = (board.display.metrics.recordStatus target 0).recordCycle target
        loop.streak.recordFailure.1.label 1

section Framings

variable {text : String} {front tail : List UInt8}

theorem delimited_sized (possible : (Utf8.bytes text).length ≤ maxBodyLength) :
    Delimited (Utf8.bytes text) (sizedHead 200 (Utf8.bytes text).length) (Utf8.bytes text) :=
  .sized (announces_sizedHead ⟨by decide, by decide, by decide⟩ possible)

theorem delimited_chunked {parts : List (List UInt8)} (split : parts.flatten = Utf8.bytes text)
    (sized : ∀ part ∈ parts, part ≠ [] ∧ part.length < sizeBound) :
    Delimited (Utf8.bytes text) (chunkedHead 200) (writeChunks parts) :=
  .chunked (announces_chunkedHead ⟨by decide, by decide, by decide⟩)
    (split ▸ chunked_written sized 0)

theorem announces_openEnded : Announces 200 .untilClose (writeStatusLine 200 ++ lineBreak) :=
  announces_bareHead ⟨by decide, by decide, by decide⟩

theorem Delimited.reports (delimited : Delimited (Utf8.bytes text) front tail) (isHeld : Bool) :
    Reports (.answered (front ++ tail) isHeld) (.ofText text) := by
  obtain ⟨framing, announced, carried, -⟩ := delimited.carries
  rw [← report_of_announced announced (carried isHeld)]
  exact reports_ofConnection _

/-- A body that only the end of the connection ends is reported once it is closed. -/
theorem reports_closed (announced : Announces 200 .untilClose front) :
    Reports (.answered (front ++ Utf8.bytes text) false) (.ofText text) := by
  rw [← report_of_announced announced (.untilClose rfl (Utf8.bytes text))]
  exact reports_ofConnection _

end Framings

/-- Every text arrives whole or not at all, however it is framed. -/
theorem texts_arrive_whole (text : String) : ArrivesWhole text where
  sized := delimited_sized
  chunked _ := delimited_chunked
  openEnded := announces_openEnded
  sizedWhole possible := (delimited_sized possible).reports
  chunkedWhole _ split sized := (delimited_chunked split sized).reports
  openEndedWhole := reports_closed announces_openEnded
  whole _ _ := Delimited.reports
  closed _ := reports_closed
  cut front tail delimited part lost split missing := by
    rw [← delimited.report_of_cut split missing]
    exact reports_ofConnection _
  shown board index loop present := by
    intro after target
    have early := fun change member => (early_loading 200 change member).1
    obtain ⟨streak, display⟩ := handleAll_of_completion present early (.done 200 text) rfl
    exact ⟨streak, congrArg Display.regions display, congrArg Display.metrics display⟩
  failed isHeaded board index loop present := by
    intro after target
    obtain ⟨early, incomplete, reported⟩ := exists_early_brokenOff isHeaded
    obtain ⟨streak, display⟩ := handleAll_of_completion present incomplete .networkError rfl
    have outcome : loop.streak.outcome .networkError = loop.streak.recordFailure.1 := rfl
    rw [reported, outcome] at display
    rw [reported] at streak
    refine ⟨streak, ?_, congrArg Display.metrics display⟩
    have regions := congrArg Display.regions display
    cases remembered : loop.streak with
    | clear | tolerating =>
        rw [remembered] at regions
        exact regions

/-- Two chunks part a text within its second character. The whole reply shows the text on
the left, and without its last byte it is a failure that is tolerated. -/
theorem texts_arrive_whole_parted :
    let parts : List (List UInt8) := [[0x63, 0xC3], [0xA9]]
    let reply := chunkedReply 200 parts
    let report := fun connection => (get (fun _ => connection) "wall" Board.console).report
    let left := fun connection =>
      (Board.leftAndRight.handleAll ((report connection).changes.map (0, ·))).display.regions
    (∀ isHeld, report (.answered reply isHeld) = .ofText "cé") ∧
      left (.answered reply true) = Board.leftAndRight.display.regions.setContent "left" "cé" ∧
      report (.answered reply.dropLast false) = .brokenOff true ∧
      left (.answered reply.dropLast false) = Board.leftAndRight.display.regions := by
  intro parts reply report left
  have sendable : (Request.create? Board.console "wall").map (·.isPlain) = some true := by
    decide +kernel
  have met (connection : Connection) :
      reached (fun _ => connection) "wall" Board.console = some connection := by
    obtain ⟨request, made, plain⟩ := Option.map_eq_some_iff.mp sendable
    rw [reached, made, Option.map_some, plain]
    rfl
  have arrives := texts_arrive_whole "cé"
  have delimited := arrives.chunked parts (by decide) (by decide)
  have whole : ∀ isHeld, report (.answered reply isHeld) = .ofText "cé" := fun isHeld =>
    arrives.whole _ _ delimited isHeld _ _ _ (met _)
  have cut : report (.answered reply.dropLast false) = .brokenOff true :=
    arrives.cut _ _ delimited reply.dropLast [0x0A] (by decide) (by decide) _ _ _ (met _)
  refine ⟨whole, ?_, cut, ?_⟩
  · obtain ⟨-, regions, -⟩ := arrives.shown Board.leftAndRight 0 _ rfl
    rw [← regions, ← whole true]
  · obtain ⟨-, regions, -⟩ := arrives.failed true Board.leftAndRight 0 _ rfl
    simp only [left, cut]
    exact regions

end PanelBoard.Http
