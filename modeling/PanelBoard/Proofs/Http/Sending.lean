import PanelBoard.Http.Exchange
import PanelBoard.Proofs.Http.Target
import PanelBoard.Proofs.Poll.Panels

/-!
# Requests of panels

A panel of an accepted configuration has an HTTP URL, and a GET of it is sent
unless the client has a name that no field may hold, or the URL is too long or
has a host that no target may hold. None of the three is looked at before.
-/

namespace PanelBoard.Http

open PanelBoard.Text

/-- May the character stand in the name of a client? -/
def isNameChar (c : Char) : Bool :=
  c == '\t' || (0x20 ≤ c.toNat && c.toNat != 0x7F)

/-- What a GET needs besides an HTTP URL. -/
structure Sendable (userAgent : String) (url : Url) : Prop where
  name : ∀ c ∈ userAgent.toList, isNameChar c = true
  short : url.text.utf8ByteSize ≤ Uri.maxLength
  host : ∀ text, url.host = .name text → ∀ c ∈ text, Uri.isUnsendable c = false

/-- What becomes of a GET. If it is sendable, it opens and the network is asked with the
path and the query of the URL; otherwise it fails before anything else, and nothing
reaches a server. -/
structure Attempts (network : Request → Connection) (userAgent : String) (url : Url) : Prop where
  sent : Sendable userAgent url → ∃ sent : Request, sent.userAgent = userAgent ∧
    sent.target.path = url.path.render ∧ sent.target.query = url.query ∧
    get network userAgent url =
      { report := .after .opened (.ofConnection (network sent))
        delivered := if network sent = .refused then none else some sent }
  failed : ¬ Sendable userAgent url → get network userAgent url =
    { report := { changes := [.done 0 ""], isOpen := false }, delivered := none }

/-- The bytes of a character may stand in a field exactly if the character may stand
in the name of a client. -/
theorem isFieldValue_char (c : Char) :
    isFieldValue (String.utf8EncodeChar c) = isNameChar c := by
  by_cases ascii : isAsciiChar c = true
  · have checked : ∀ n < 0x80, isFieldValue [UInt8.ofNat (Char.ofNat n).toNat] =
        isNameChar (Char.ofNat n) := by decide
    rw [utf8EncodeChar_of_isAsciiChar ascii]
    exact of_isAsciiChar (fun c => isFieldValue [UInt8.ofNat c.toNat] = isNameChar c) checked ascii
  · have outside : isAsciiChar c = false := Bool.eq_false_iff.mpr ascii
    have code : 0x80 ≤ c.toNat := by simpa [isAsciiChar] using outside
    have named : isNameChar c = true := by
      simp only [isNameChar, Bool.or_eq_true, Bool.and_eq_true, decide_eq_true_eq, bne_iff_ne]
      omega
    rw [named, isFieldValue, List.all_eq_true]
    intro b member
    have large := high_utf8EncodeChar outside b member
    have other : b ≠ 0x7F := by
      rintro rfl
      exact absurd large (by decide)
    have above : 0x20 ≤ b := UInt8.le_iff_toNat_le.mpr (Nat.le_trans (by decide) large)
    simp [isValueByte, above, other]

/-- The bytes of a name may stand in a field if its characters may. -/
theorem isFieldValue_bytes (name : String) :
    isFieldValue (Utf8.bytes name) = name.toList.all isNameChar := by
  have all (cs : List Char) : isFieldValue (Utf8.encode cs) = cs.all isNameChar := by
    induction cs with
    | nil => rfl
    | cons c cs ih =>
        rw [List.all_cons, ← ih, ← isFieldValue_char, Utf8.encode_cons, isFieldValue,
          List.all_append]
        rfl
  exact all name.toList

theorem isSendableHost_iff (host : Url.Host) :
    Uri.isSendableHost host = true ↔
      ∀ text, host = .name text → ∀ c ∈ text, Uri.isUnsendable c = false := by
  cases host with
  | name text => simp [Uri.isSendableHost]
  | ipv4 | ipv6 => simp [Uri.isSendableHost]

section Sending

variable {url : Url} {userAgent : String}

/-- A request for an HTTP URL can be made exactly if it is sendable. -/
theorem create?_cases (normal : url.IsNormal) (http : url.schemeText = "http") :
    (Sendable userAgent url → ∃ sent, Request.create? url userAgent = some sent ∧
      sent.isPlain = true ∧ sent.userAgent = userAgent ∧
      sent.target.path = url.path.render ∧ sent.target.query = url.query) ∧
    (¬ Sendable userAgent url → Request.create? url userAgent = none) := by
  obtain ⟨authority, given, -⟩ := normal.authority
  have host : url.host = authority.host := by
    rw [Url.host, given]
    rfl
  have target := Uri.parse?_text normal http given
  have field := isFieldValue_bytes userAgent
  constructor
  · intro sendable
    have valid : isFieldValue (Utf8.bytes userAgent) = true := by
      rw [field, List.all_eq_true]
      exact sendable.name
    have stands : Uri.isSendableHost authority.host = true :=
      (isSendableHost_iff _).mpr (host ▸ sendable.host)
    rw [if_pos ⟨sendable.short, stands⟩] at target
    rw [Request.create?, dif_pos valid, target, Option.map_some]
    exact ⟨_, rfl, rfl, rfl, rfl, rfl⟩
  · intro unsendable
    unfold Request.create?
    split
    next valid =>
      have outside : ¬ (url.text.utf8ByteSize ≤ Uri.maxLength ∧
          Uri.isSendableHost authority.host = true) := by
        rintro ⟨short, stands⟩
        rw [field, List.all_eq_true] at valid
        exact unsendable ⟨valid, short, host ▸ (isSendableHost_iff _).mp stands⟩
      rw [target, if_neg outside, Option.map_none]
    next => rfl

/-- A GET of an HTTP URL is attempted exactly if it is sendable. -/
theorem attempts (normal : url.IsNormal) (http : url.schemeText = "http")
    (network : Request → Connection) : Attempts network userAgent url where
  sent := by
    intro sendable
    obtain ⟨sent, made, plain, agent, path, query⟩ := (create?_cases normal http).1 sendable
    refine ⟨sent, agent, path, query, ?_⟩
    rw [get, made]
    simp only [plain, if_true]
  failed := by
    intro unsendable
    rw [get, (create?_cases normal http).2 unsendable]
    rfl

end Sending

/-- A panel of an accepted configuration can be polled as far as its name for itself,
the length of the URL and the host allow. It has a request for an HTTP URL, and a GET
of the URL opens and is attempted exactly if it is sendable; else it fails at once. -/
theorem panels_attempted {config : Config} (accepted : config.validate = .ok ())
    (display : Poll.Display) (transports : Nat → Poll.Transport) :
    ∃ board requests started, Poll.Board.ofConfig config display = .ok board ∧
      board.startPanels transports config.panels = (.ok requests, started) ∧
      List.Forall₂ (fun panel request => Poll.Serves board.base panel request ∧
        ∀ network, Attempts network config.client.userAgent request.url)
        config.panels requests := by
  have none := (Config.validate_eq_ok_iff config).mp accepted
  obtain ⟨board, requests, started, made, answered, serves⟩ :=
    Poll.Board.exists_startPanels transports display (Config.sound_of_accepted accepted).urls
      (by simp [none])
  obtain ⟨base, parsed, rfl⟩ := Poll.Board.ofConfig_eq_ok_iff.mp made
  refine ⟨_, requests, started, made, answered, serves.imp fun panel request served => ?_⟩
  have special : request.url.kind = .special := by
    have scheme : request.url.scheme = "http".toList := by
      rw [← served.scheme, Url.schemeText, String.toList_ofList]
    rw [Url.kind, scheme]
    rfl
  have normal := Url.isNormal_join parsed served.url special
  exact ⟨served, attempts normal served.scheme⟩

/-- The URL of a panel below the base URL of a configuration that gives none. -/
def newsUrl : Url where
  scheme := "http".toList
  authority := some { host := .ipv4 0x7F000001, port := some 7657 }
  path := .segments ["news".toList]

/-- One panel below the usual base URL, polled under the usual name on a network where
nobody listens: the GET opens. -/
theorem panels_attempted_refused :
    let config : Config := { panels := [{ target := "news", url := "/news" }] }
    ∃ board requests started, Poll.Board.ofConfig config {} = .ok board ∧
      board.startPanels (fun _ _ => []) config.panels = (.ok requests, started) ∧
      requests.map (·.url) = [newsUrl] ∧ ∀ request ∈ requests,
        (get (fun _ => .refused) config.client.userAgent request.url).report.changes =
          [.opened, .networkError] := by
  intro config
  have accepted : config.validate = .ok () := by decide +kernel
  obtain ⟨board, requests, started, made, answered, attempted⟩ :=
    panels_attempted accepted {} (fun _ _ => [])
  refine ⟨board, requests, started, made, answered, ?_⟩
  obtain ⟨base, parsed, rfl⟩ := Poll.Board.ofConfig_eq_ok_iff.mp made
  have resolved : (Url.parse config.client.baseUrl).toOption.bind
      (fun base => (base.join "/news").toOption) = some newsUrl := by decide +kernel
  rw [parsed] at resolved
  have sendable : Sendable config.client.userAgent newsUrl :=
    ⟨List.all_iff_forall_prop.mp (by decide), by decide +kernel, fun text named => by cases named⟩
  cases attempted with
  | @cons panel request panels others first rest =>
      cases rest
      obtain ⟨served, attempts⟩ := first
      have joined : base.join "/news" = .ok request.url := served.url
      rw [Except.toOption, Option.bind_some, joined] at resolved
      have same : request.url = newsUrl := Option.some.inj resolved
      rw [same] at attempts
      obtain ⟨sent, -, -, -, got⟩ := (attempts fun _ => .refused).sent sendable
      refine ⟨by rw [List.map_singleton, same], List.forall_mem_singleton.mpr ?_⟩
      rw [same, got]
      rfl

/-- A client whose name holds a line break: the configuration is accepted, and the GET of
its panel fails before anything else on every network. -/
theorem broken_name_unsent :
    let config : Config :=
      { client := { userAgent := "a\nb" }, panels := [{ target := "news", url := "/news" }] }
    config.validate = .ok () ∧
      (Url.parse config.client.baseUrl).toOption.bind
        (fun base => (base.join "/news").toOption) = some newsUrl ∧
      ∀ network, get network config.client.userAgent newsUrl =
        { report := { changes := [.done 0 ""], isOpen := false }, delivered := none } := by
  intro config
  refine ⟨by decide +kernel, by decide +kernel, fun network => ?_⟩
  have refused : Request.create? newsUrl config.client.userAgent = none := dif_neg (by decide)
  rw [get, refused]
  rfl

end PanelBoard.Http
