import PanelBoard.Proofs.Http.Replies

/-!
# Courses of exchanges

A GET takes one of seven courses, whatever the network and the server do: what it
reports is read off the bytes that came and off whether the connection is held
open, and there is one course for them. On every course a completion is the last
report and closes the exchange.
-/

namespace PanelBoard.Http

open PanelBoard.Poll PanelBoard.Text

/-- The bytes do not begin with a final head that announces a framing. -/
def Headless (reply : List UInt8) : Prop :=
  ∀ head framing rest, ¬ Headed reply head framing rest

/-- No final head comes of the bytes, whatever follows them. -/
def Refused (reply : List UInt8) : Prop :=
  ∀ more, Report.framedHead (reply ++ more) = .broken

/-- No body comes of the bytes behind a head, whatever follows them. -/
def Spoilt (framing : Framing) (rest : List UInt8) : Prop :=
  ∀ more, framing.arrival true (rest ++ more) = .lost

/-- What is reported when a request cannot be sent, or is sent on a connection. Only
a connection that is held open leaves an exchange open, and only while the bytes that
came are not refused, so that more of them are awaited. -/
inductive Course : Option Connection → Report → Prop where
  | unsent : Course none { changes := [.done 0 ""], isOpen := false }
  | refused : Course (some .refused) { changes := [.opened, .done 0 ""], isOpen := false }
  | unanswered {reply : List UInt8} {isHeld : Bool} (headless : Headless reply)
      (refused : isHeld = true → Refused reply) :
      Course (some (.answered reply isHeld)) { changes := [.opened, .done 0 ""], isOpen := false }
  | silent {reply : List UInt8} (awaited : Report.framedHead reply = .unfinished) :
      Course (some (.answered reply true)) { changes := [.opened], isOpen := true }
  | finished {reply rest body : List UInt8} {isHeld : Bool} {head : Head} {framing : Framing}
      {status : UInt16} (headed : Headed reply head framing rest)
      (coded : status.toNat = head.status) (carried : Carries isHeld framing rest body) :
      Course (some (.answered reply isHeld))
        { changes := [.opened, .headersReceived status, .loading status,
            .done status (String.ofList (Utf8.decodeLossy body))]
          isOpen := false }
  | broken {reply rest : List UInt8} {isHeld : Bool} {head : Head} {framing : Framing}
      {status : UInt16} (headed : Headed reply head framing rest)
      (coded : status.toNat = head.status) (lost : ∀ body, ¬ Carries isHeld framing rest body)
      (spoilt : isHeld = true → Spoilt framing rest) :
      Course (some (.answered reply isHeld))
        { changes := [.opened, .headersReceived status, .loading status, .done 0 ""]
          isOpen := false }
  | pending {reply rest : List UInt8} {head : Head} {framing : Framing} {status : UInt16}
      (headed : Headed reply head framing rest) (coded : status.toNat = head.status)
      (lost : ∀ body, ¬ Carries true framing rest body)
      (awaited : framing.arrival true rest = .awaited) :
      Course (some (.answered reply true))
        { changes := [.opened, .headersReceived status, .loading status], isOpen := true }

/-- What a listener to reports relies on: one completion at most and nothing after it, no
text but that of a completion with a status, and one status throughout. -/
structure Orderly (report : Report) : Prop where
  once : report.changes.countP Response.isComplete ≤ 1
  last : ∀ change ∈ report.changes.dropLast, change.isComplete = false
  closed : report.isOpen = false ↔ ∃ change ∈ report.changes, change.isComplete = true
  bodies : ∀ change ∈ report.changes, change.body ≠ "" →
    change.isComplete = true ∧ change.status ≠ 0
  statuses : ∀ first ∈ report.changes, ∀ second ∈ report.changes,
    first.status ≠ 0 → second.status ≠ 0 → first.status = second.status

theorem FinalHead.bounds {bytes rest : List UInt8} {final : Head}
    (headed : FinalHead bytes final rest) : 100 ≤ final.status ∧ final.status < 1000 := by
  induction headed with
  | here read => exact status_bounds read
  | later _ _ _ ih => exact ih

/-- A status fits the type of statuses. -/
theorem Headed.toNat_status {bytes rest : List UInt8} {head : Head} {framing : Framing}
    (headed : Headed bytes head framing rest) : head.status.toUInt16.toNat = head.status := by
  have := headed.final.bounds
  exact Nat.mod_eq_of_lt (by omega)

/-- Status 0 is that of no reply. -/
theorem Headed.status_ne_zero {bytes rest : List UInt8} {head : Head} {framing : Framing}
    {status : UInt16} (headed : Headed bytes head framing rest)
    (coded : status.toNat = head.status) : status ≠ 0 := by
  rintro rfl
  have := headed.final.bounds
  rw [← coded] at this
  exact absurd this.1 (by decide)

theorem Headed.toUInt16_status {bytes rest : List UInt8} {head : Head} {framing : Framing}
    {status : UInt16} (headed : Headed bytes head framing rest)
    (coded : status.toNat = head.status) : head.status.toUInt16 = status :=
  UInt16.toNat_inj.mp (headed.toNat_status.trans coded.symm)

theorem headless_of_ne {reply : List UInt8}
    (unread : ∀ value rest, Report.framedHead reply ≠ .complete value rest) : Headless reply :=
  fun _ _ _ headed => unread _ _ (framedHead_eq_complete_iff.mpr headed)

/-- What is reported of a reply behind the opening is a course. -/
theorem course_ofReply (reply : List UInt8) (isHeld : Bool) :
    Course (some (.answered reply isHeld)) (.after .opened (.ofReply reply isHeld)) := by
  unfold Report.ofReply
  cases read : Report.framedHead reply with
  | complete value rest =>
      have headed := framedHead_eq_complete_iff.mp read
      have coded := headed.toNat_status
      have lost : ∀ arrival, value.2.arrival isHeld rest = arrival →
          (∀ body, arrival ≠ .whole body) → ∀ body, ¬ Carries isHeld value.2 rest body :=
        fun _ same other body carried => other body (same ▸ carries_iff.mpr carried)
      simp only [Report.ofHead]
      cases arrived : value.2.arrival isHeld rest with
      | whole body => exact .finished headed coded (carries_iff.mp arrived)
      | awaited =>
          obtain rfl := held_of_awaited arrived
          exact .pending headed coded (lost _ arrived nofun) arrived
      | lost =>
          refine .broken headed coded (lost _ arrived nofun) fun held => ?_
          exact lost_append (held ▸ arrived)
  | unfinished =>
      cases isHeld with
      | true => exact .silent read
      | false => exact .unanswered (headless_of_ne (by simp [read])) nofun
  | broken =>
      exact .unanswered (headless_of_ne (by simp [read])) fun _ => steady_framedHead.stays read

/-- What a GET that meets a connection reports; without one it cannot be sent. -/
def reportOf : Option Connection → Report
  | none => .failed
  | some connection => .after .opened (.ofConnection connection)

/-- A connection has one course. -/
theorem Course.report_eq {connection : Option Connection} {report : Report}
    (course : Course connection report) : report = reportOf connection := by
  cases course with
  | unsent | refused => rfl
  | @unanswered reply isHeld headless refused =>
      simp only [reportOf, Report.ofConnection, Report.ofReply]
      cases read : Report.framedHead reply with
      | complete value rest => exact (headless _ _ _ (framedHead_eq_complete_iff.mp read)).elim
      | unfinished =>
          cases isHeld with
          | true =>
              have early := refused rfl []
              rw [List.append_nil, read] at early
              cases early
          | false => rfl
      | broken => rfl
  | silent awaited =>
      simp only [reportOf, Report.ofConnection, Report.ofReply, awaited]
      rfl
  | finished headed coded carried =>
      simp only [reportOf, Report.ofConnection, headed.ofReply, Report.ofHead,
        carries_iff.mpr carried, headed.toUInt16_status coded]
      rfl
  | @broken reply rest isHeld head framing status headed coded lost spoilt =>
      simp only [reportOf, Report.ofConnection, headed.ofReply, Report.ofHead,
        headed.toUInt16_status coded]
      cases arrived : framing.arrival isHeld rest with
      | whole body => exact (lost body (carries_iff.mp arrived)).elim
      | awaited =>
          obtain rfl := held_of_awaited arrived
          have early := spoilt rfl []
          rw [List.append_nil, arrived] at early
          cases early
      | lost => rfl
  | pending headed coded lost awaited =>
      simp only [reportOf, Report.ofConnection, headed.ofReply, Report.ofHead, awaited,
        headed.toUInt16_status coded]
      rfl

/-- An interim head is passed over, and behind a status without a body nothing is awaited. -/
example :
    Report.ofReply (ascii "HTTP/1.1 100 Go\r\n\r\nHTTP/1.1 204 Done\r\n\r\n") true =
      { changes := [.headersReceived 204, .loading 204, .done 204 ""], isOpen := false } := by
  decide +kernel

/-- A change that completes nothing and has no text, nor any other status than one. -/
def IsEarly (status : UInt16) (change : Response) : Prop :=
  change.isComplete = false ∧ change.body = "" ∧ (change.status = 0 ∨ change.status = status)

/-- A completion has the status of the others, or neither status nor text. -/
def IsCompletion (status : UInt16) (change : Response) : Prop :=
  change.isComplete = true ∧
    (change.status = status ∨ change.status = 0 ∧ change.body = "")

section Reports

variable {status : UInt16} {early : List Response}

/-- Early changes are orderly while more may follow. -/
theorem orderly_open (quiet : ∀ change ∈ early, IsEarly status change) :
    Orderly { changes := early, isOpen := true } where
  once := by
    rw [List.countP_eq_zero.mpr fun change member => by simp [(quiet change member).1]]
    exact Nat.zero_le 1
  last change member := (quiet change ((List.dropLast_sublist _).subset member)).1
  closed := by
    constructor
    · nofun
    · rintro ⟨change, member, complete⟩
      exact absurd complete (by simp [(quiet change member).1])
  bodies change member text := absurd (quiet change member).2.1 text
  statuses first member second member' some some' := by
    have given := (quiet first member).2.2.resolve_left some
    have given' := (quiet second member').2.2.resolve_left some'
    rw [given, given']

/-- Early changes and one completion are orderly once nothing follows. -/
theorem orderly_closed (given : status ≠ 0) {completion : Response}
    (quiet : ∀ change ∈ early, IsEarly status change) (final : IsCompletion status completion) :
    Orderly { changes := early ++ [completion], isOpen := false } where
  once := by
    rw [List.countP_append, List.countP_eq_zero.mpr fun change member => by
      simp [(quiet change member).1]]
    simp [final.1]
  last change member := by
    rw [List.dropLast_concat] at member
    exact (quiet change member).1
  closed := ⟨fun _ => ⟨completion, by simp, final.1⟩, fun _ => rfl⟩
  bodies change member text := by
    obtain member | last := List.mem_append.mp member
    · exact absurd (quiet change member).2.1 text
    · obtain rfl := List.mem_singleton.mp last
      obtain same | ⟨-, empty⟩ := final.2
      · exact ⟨final.1, same ▸ given⟩
      · exact absurd empty text
  statuses := by
    have own : ∀ change ∈ early ++ [completion], change.status ≠ 0 → change.status = status := by
      intro change member some
      obtain member | last := List.mem_append.mp member
      · exact (quiet change member).2.2.resolve_left some
      · obtain rfl := List.mem_singleton.mp last
        exact final.2.resolve_right fun none => some none.1
    intro first member second member' some some'
    rw [own first member some, own second member' some']

end Reports

/-- What is reported up to the body is early. -/
theorem early_loading (status : UInt16) :
    ∀ change ∈ [Response.opened, .headersReceived status, .loading status],
      IsEarly status change := by
  simp [IsEarly, Response.opened, Response.headersReceived, Response.loading, Response.isComplete]

/-- Every course is orderly. -/
theorem Course.orderly {connection : Option Connection} {report : Report}
    (course : Course connection report) : Orderly report := by
  cases course with
  | unsent | refused | unanswered | silent => constructor <;> decide
  | finished headed coded =>
      exact orderly_closed (headed.status_ne_zero coded) (early_loading _) ⟨rfl, .inl rfl⟩
  | broken headed coded =>
      exact orderly_closed (headed.status_ne_zero coded) (early_loading _)
        ⟨rfl, .inr ⟨rfl, rfl⟩⟩
  | pending => exact orderly_open (early_loading _)

/-- What a GET meets: nothing if its request cannot be made, and nobody if it does not use
plain HTTP. -/
def reached (network : Request → Connection) (userAgent : String) (url : Url) :
    Option Connection :=
  (Request.create? url userAgent).map fun request =>
    if request.isPlain then network request else .refused

theorem report_get (network : Request → Connection) (userAgent : String) (url : Url) :
    (get network userAgent url).report = reportOf (reached network userAgent url) := by
  unfold reached get
  cases Request.create? url userAgent <;> rfl

theorem course_reportOf (connection : Option Connection) :
    Course connection (reportOf connection) := by
  cases connection with
  | none => exact .unsent
  | some connection =>
      cases connection with
      | refused => exact .refused
      | answered reply isHeld => exact course_ofReply reply isHeld

/-- A GET takes a course and no other, on every network and for every name and URL, and
reports in good order. A server has its request exactly if somebody answers. -/
theorem get_takes_course (network : Request → Connection) (userAgent : String) (url : Url) :
    (∀ report, Course (reached network userAgent url) report ↔
      report = (get network userAgent url).report) ∧
      Orderly (get network userAgent url).report ∧
      (get network userAgent url).delivered =
        match reached network userAgent url with
        | some (.answered _ _) => Request.create? url userAgent
        | _ => none := by
  have taken := course_reportOf (reached network userAgent url)
  refine ⟨fun report => ⟨fun course => ?_, ?_⟩, ?_, ?_⟩
  · rw [report_get, course.report_eq]
  · rintro rfl
    rwa [report_get]
  · rw [report_get]
    exact taken.orderly
  · unfold reached get
    cases Request.create? url userAgent with
    | none => rfl
    | some request =>
        simp only [Option.map_some]
        generalize (if request.isPlain then network request else .refused) = connection
        cases connection <;> rfl

end PanelBoard.Http
