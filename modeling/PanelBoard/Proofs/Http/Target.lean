import Mathlib.Data.Bool.AllAny
import PanelBoard.Http.Uri
import PanelBoard.Proofs.Url.Normal

/-!
# URLs as targets

The text of a URL in normal form obeys the grammar of targets, but for its
length and for four characters that a host name may hold and an authority may
not. What is read of it are the parts of the URL.
-/

namespace PanelBoard.Http.Uri

open PanelBoard.Text PanelBoard.Url.Percent

/-! ## Scanning -/

section Scan

variable {scan : AuthorityScan} {cs : List Char}

/-- Does reading the character change nothing but that the authority does not end
in an `@`? -/
def isPlainChar (c : Char) : Bool :=
  isAuthorityChar c && !([':', '[', ']', '@'].contains c)

theorem step?_plain {c : Char} (plain : isPlainChar c = true) :
    scan.step? c = some { scan with endsInAt := false } := by
  simp only [isPlainChar, List.contains_cons, List.contains_nil, Bool.or_false, Bool.and_eq_true,
    Bool.not_eq_true', Bool.or_eq_false_iff, beq_eq_false_iff_ne] at plain
  obtain ⟨authority, colon, opening, closing, at_⟩ := plain
  have percent : c ≠ '%' := by
    rintro rfl
    cases authority
  simp [AuthorityScan.step?, *]

theorem step?_colon (few : scan.colons < 8) :
    scan.step? ':' = some { scan with colons := scan.colons + 1, endsInAt := false } := by
  simp [AuthorityScan.step?, few]

/-- Plain characters and colons are counted only. -/
theorem scan_colons (parts : ∀ c ∈ cs, isPlainChar c = true ∨ c = ':')
    (few : scan.colons + cs.count ':' ≤ 8) :
    cs.foldlM AuthorityScan.step? scan =
      some { scan with colons := scan.colons + cs.count ':'
                       endsInAt := scan.endsInAt && cs.isEmpty } := by
  induction cs generalizing scan with
  | nil => simp
  | cons c cs ih =>
      have both := List.forall_mem_cons.mp parts
      rcases both.1 with plain | rfl
      · have other : c ≠ ':' := by
          rintro rfl
          cases plain
        rw [List.count_cons_of_ne other] at few ⊢
        have later := @ih { scan with endsInAt := false } both.2 few
        rw [List.foldlM_cons, step?_plain plain]
        simp only [Option.bind_eq_bind, Option.bind_some, later]
        simp
      · rw [List.count_cons_self] at few ⊢
        have fewer : scan.colons + 1 + cs.count ':' ≤ 8 := by omega
        have later := @ih { scan with colons := scan.colons + 1, endsInAt := false } both.2 fewer
        have sum : scan.colons + 1 + cs.count ':' = scan.colons + (cs.count ':' + 1) := by omega
        rw [List.foldlM_cons, step?_colon (by omega)]
        simp only [Option.bind_eq_bind, Option.bind_some, later, sum]
        simp

theorem scan_plain (plain : ∀ c ∈ cs, isPlainChar c = true) (few : scan.colons ≤ 8) :
    cs.foldlM AuthorityScan.step? scan =
      some { scan with endsInAt := scan.endsInAt && cs.isEmpty } := by
  have none : cs.count ':' = 0 := by
    refine List.count_eq_zero.mpr fun member => ?_
    cases plain ':' member
  rw [scan_colons (fun c member => .inl (plain c member)) (by omega), none, Nat.add_zero]

/-- A character that no authority may hold ends the reading wherever it stands. -/
theorem scan_refused {c : Char} (member : c ∈ cs)
    (refused : ∀ scan : AuthorityScan, scan.step? c = none) :
    cs.foldlM AuthorityScan.step? scan = none := by
  induction cs generalizing scan with
  | nil => cases member
  | cons first rest ih =>
      rw [List.foldlM_cons]
      rcases List.mem_cons.mp member with rfl | later
      · rw [refused]
        rfl
      · cases scan.step? first with
        | none => rfl
        | some next => exact ih later

/-- A user name or a password may leave a percent sign behind, and nothing else. -/
theorem scan_userinfo (encoded : Encoded inUserinfo cs) :
    ∃ percent ends, cs.foldlM AuthorityScan.step? scan =
      some { scan with hasPercent := percent, endsInAt := ends } := by
  have checked : ∀ n < 0x80, inUserinfo (Char.ofNat n) = false →
      Char.ofNat n = '%' ∨ isPlainChar (Char.ofNat n) = true := by decide
  have kinds : ∀ c ∈ cs, c = '%' ∨ isPlainChar c = true := encoded.all checked
  clear encoded
  induction cs generalizing scan with
  | nil => exact ⟨scan.hasPercent, scan.endsInAt, rfl⟩
  | cons c cs ih =>
      have parts := List.forall_mem_cons.mp kinds
      rw [List.foldlM_cons]
      rcases parts.1 with rfl | plain
      · exact @ih { scan with hasPercent := true, endsInAt := false } parts.2
      · rw [step?_plain plain]
        exact @ih { scan with endsInAt := false } parts.2

/-- User name and password are passed, and nothing is known of them afterwards. -/
theorem scan_credentials {authority : Url.Authority} (normal : authority.IsNormal) :
    ∃ ends, authority.renderCredentials.foldlM AuthorityScan.step? {} =
      some { endsInAt := ends } := by
  unfold Url.Authority.renderCredentials
  simp only
  split
  next => exact ⟨false, rfl⟩
  next =>
    refine ⟨true, ?_⟩
    obtain ⟨percent, ends, user⟩ := @scan_userinfo {} _ normal.username
    cases given : authority.password with
    | none =>
        simp only [List.foldlM_append, user, List.append_nil, Option.bind_eq_bind, Option.bind_some]
        simp [AuthorityScan.step?]
    | some password =>
        have few : AuthorityScan.colons { hasPercent := percent, endsInAt := ends } < 8 := by
          simp
        have colon := step?_colon few
        obtain ⟨also, endsAlso, word⟩ :=
          @scan_userinfo { colons := 1, hasPercent := percent } _ (normal.password password given)
        simp only [List.foldlM_append, List.foldlM_cons, user, colon, word, Option.bind_eq_bind,
          Option.bind_some, Nat.zero_add]
        simp [AuthorityScan.step?]

end Scan

/-! ## Hosts -/

/-- The characters that a host name may hold and an authority may not. -/
def isUnsendable (c : Char) : Bool :=
  ['"', '\x60', '\x7b', '\x7d'].contains c

/-- May the host stand in an authority? -/
def isSendableHost : Url.Host → Bool
  | .name text => !text.any isUnsendable
  | _ => true

theorem isPlainChar_or_isUnsendable {c : Char} (allowed : Url.Idna.isHostChar c = true) :
    isPlainChar c = !isUnsendable c := by
  have checked : ∀ n < 0x80, Url.Idna.isHostChar (Char.ofNat n) = true →
      isPlainChar (Char.ofNat n) = !isUnsendable (Char.ofNat n) := by decide
  have ascii : isAsciiChar c = true := (Bool.and_eq_true_iff.mp allowed).1
  exact of_isAsciiChar (fun c => Url.Idna.isHostChar c = true → isPlainChar c = !isUnsendable c)
    checked ascii allowed

theorem isPlainChar_of_isDigit {c : Char} (digit : c.isDigit = true) : isPlainChar c = true := by
  have checked : ∀ n < 0x80, (Char.ofNat n).isDigit = true →
      isPlainChar (Char.ofNat n) = true := by decide
  have ascii : isAsciiChar c = true := by
    have code := Char.isDigit_iff_toNat.mp digit
    rw [isAsciiChar, decide_eq_true_eq]
    exact Nat.lt_of_le_of_lt code.2 (by decide)
  exact of_isAsciiChar (fun c => c.isDigit = true → isPlainChar c = true) checked ascii digit

/-- An address of four bytes is printed in digits and dots. -/
theorem isPlainChar_ipv4 (address : Nat) : ∀ c ∈ Url.Ipv4.render address, isPlainChar c = true := by
  intro c member
  rcases mem_of_mem_joinWith member with mark | ⟨byte, listed, own⟩
  · rw [List.mem_singleton.mp mark]
    rfl
  · obtain ⟨place, -, rfl⟩ := List.mem_map.mp listed
    exact isPlainChar_of_isDigit (isDigit_of_mem_decimal own)

theorem ipv4_ne_nil (address : Nat) : Url.Ipv4.render address ≠ [] := by
  intro empty
  have first := (List.append_eq_nil_iff.mp (List.append_eq_nil_iff.mp empty).1).1
  exact decimal_ne_nil _ first

/-- An address of eight pieces is printed in plain characters and colons. -/
theorem isPlainChar_ipv6 (pieces : List Nat) :
    ∀ c ∈ Url.Ipv6.render pieces, isPlainChar c = true ∨ c = ':' := by
  have digits : ∀ c ∈ (List.range 16).map Nat.digitChar, isPlainChar c = true :=
    List.all_iff_forall_prop.mp (by decide)
  intro c member
  rcases Url.Ipv6.chars_render pieces c member with digit | colon
  · exact .inl (digits c (List.contains_iff_mem.mp digit))
  · exact .inr colon

/-- A host that may be sent is passed, its brackets closed and no colon counted. -/
theorem scan_host {host : Url.Host} (normal : host.IsNormal) (sendable : isSendableHost host = true)
    (ends : Bool) :
    ∃ brackets, host.render.foldlM AuthorityScan.step? { endsInAt := ends } =
      some { isOpened := brackets, isClosed := brackets } := by
  cases host with
  | name text =>
      obtain ⟨nonempty, allowed⟩ := normal
      have plain : ∀ c ∈ text, isPlainChar c = true := by
        intro c member
        rw [isPlainChar_or_isUnsendable (allowed c member)]
        simpa using List.any_eq_false.mp (by simpa [isSendableHost] using sendable) c member
      refine ⟨false, ?_⟩
      rw [Url.Host.render, scan_plain plain (Nat.zero_le _)]
      simp [nonempty]
  | ipv4 address =>
      refine ⟨false, ?_⟩
      rw [Url.Host.render, scan_plain (isPlainChar_ipv4 address) (Nat.zero_le _)]
      simp [ipv4_ne_nil]
  | ipv6 pieces =>
      have few := Url.Ipv6.count_colons_render normal
      have inside := @scan_colons { isOpened := true } _ (isPlainChar_ipv6 pieces)
        (by simp only; omega)
      have opening : AuthorityScan.step? { endsInAt := ends } '[' =
          some { isOpened := true } := by simp [AuthorityScan.step?]
      refine ⟨true, ?_⟩
      simp only [Url.Host.render, List.cons_append, List.foldlM_cons, List.foldlM_append, opening,
        inside, Option.bind_eq_bind, Option.bind_some]
      simp [AuthorityScan.step?]

/-- A host that may not be sent stops the reading. -/
theorem scan_unsendable {host : Url.Host} (unsendable : isSendableHost host = false)
    (scan : AuthorityScan) : host.render.foldlM AuthorityScan.step? scan = none := by
  have refused : ∀ c ∈ ['"', '\x60', '\x7b', '\x7d'], ∀ scan : AuthorityScan,
      scan.step? c = none := by
    intro c member scan
    simp only [List.mem_cons, List.not_mem_nil, or_false] at member
    rcases member with rfl | rfl | rfl | rfl <;> rfl
  cases host with
  | name text =>
      simp only [isSendableHost, Bool.not_eq_false', List.any_eq_true] at unsendable
      obtain ⟨c, member, bad⟩ := unsendable
      exact scan_refused member (refused c (List.contains_iff_mem.mp bad))
  | ipv4 | ipv6 => cases unsendable

/-! ## Authorities -/

/-- The text of an authority. -/
def authorityText (authority : Url.Authority) : List Char :=
  authority.renderCredentials ++ authority.renderHost

/-- The end of an authority in a target. -/
def endsAuthority (c : Char) : Bool :=
  c == '/' || c == '?' || c == '#'

theorem free_credentials {authority : Url.Authority} (normal : authority.IsNormal) :
    ∀ c ∈ authority.renderCredentials, endsAuthority c = false := by
  have checked : ∀ n < 0x80, inUserinfo (Char.ofNat n) = false →
      endsAuthority (Char.ofNat n) = false := by decide
  unfold Url.Authority.renderCredentials
  simp only
  split
  · nofun
  · have at_ : ∀ c ∈ ['@'], endsAuthority c = false := List.all_iff_forall_prop.mp (by decide)
    refine List.forall_mem_append.mpr ⟨List.forall_mem_append.mpr
      ⟨normal.username.all checked, ?_⟩, at_⟩
    split
    next password given =>
      exact List.forall_mem_cons.mpr ⟨rfl, (normal.password password given).all checked⟩
    next => nofun

/-- A class of characters that leaves out the three marks holds no end of an authority. -/
theorem free_of_leaves {isMember : Char → Bool} (slash : isMember '/' = false)
    (question : isMember '?' = false) (hash : isMember '#' = false) {c : Char}
    (member : isMember c = true) : endsAuthority c = false := by
  rw [endsAuthority, Bool.or_eq_false_iff, Bool.or_eq_false_iff]
  refine ⟨⟨?_, ?_⟩, ?_⟩ <;> rw [beq_eq_false_iff_ne] <;> rintro rfl
  · exact absurd member (by rw [slash]; exact Bool.false_ne_true)
  · exact absurd member (by rw [question]; exact Bool.false_ne_true)
  · exact absurd member (by rw [hash]; exact Bool.false_ne_true)

theorem free_of_plain {c : Char} (plain : isPlainChar c = true) : endsAuthority c = false :=
  free_of_leaves rfl rfl rfl plain

theorem free_host {host : Url.Host} (normal : host.IsNormal) :
    ∀ c ∈ host.render, endsAuthority c = false := by
  intro c member
  cases host with
  | name text => exact free_of_leaves rfl rfl rfl (normal.2 c member)
  | ipv4 address => exact free_of_plain (isPlainChar_ipv4 address c member)
  | ipv6 pieces =>
      simp only [Url.Host.render, List.cons_append, List.mem_cons, List.mem_append,
        List.not_mem_nil, or_false] at member
      rcases member with rfl | within | rfl
      · rfl
      · rcases isPlainChar_ipv6 pieces c within with plain | rfl
        · exact free_of_plain plain
        · rfl
      · rfl

/-- The text of an authority holds no end of it. -/
theorem free_authorityText {authority : Url.Authority} (normal : authority.IsNormal) :
    ∀ c ∈ authorityText authority, endsAuthority c = false := by
  refine List.forall_mem_append.mpr ⟨free_credentials normal,
    List.forall_mem_append.mpr ⟨free_host normal.host, ?_⟩⟩
  split
  next port _ =>
    refine List.forall_mem_cons.mpr ⟨rfl, fun c member => ?_⟩
    exact free_of_plain (isPlainChar_of_isDigit (isDigit_of_mem_decimal member))
  next => nofun

theorem host_ne_nil {host : Url.Host} (normal : host.IsNormal) : host.render ≠ [] := by
  cases host with
  | name text => exact normal.1
  | ipv4 address => exact ipv4_ne_nil address
  | ipv6 pieces => exact List.cons_ne_nil _ _

theorem authorityText_ne_nil {authority : Url.Authority} (normal : authority.IsNormal) :
    authorityText authority ≠ [] := by
  intro empty
  have host := (List.append_eq_nil_iff.mp (List.append_eq_nil_iff.mp empty).2).1
  exact host_ne_nil normal.host host

/-- The authority of a URL is scanned as a whole if its host may be sent. -/
theorem scan_authority {authority : Url.Authority} (normal : authority.IsNormal)
    (sendable : isSendableHost authority.host = true) :
    ∃ scan, (authorityText authority).foldlM AuthorityScan.step? {} = some scan ∧
      scan.isComplete = true := by
  obtain ⟨ends, credentials⟩ := scan_credentials normal
  obtain ⟨brackets, host⟩ := scan_host normal.host sendable ends
  unfold authorityText Url.Authority.renderHost
  simp only
  cases authority.port with
  | none =>
      refine ⟨{ isOpened := brackets, isClosed := brackets }, ?_,
        by simp [AuthorityScan.isComplete]⟩
      simp [List.foldlM_append, credentials, host]
  | some port =>
      have few : AuthorityScan.colons { isOpened := brackets, isClosed := brackets } < 8 := by
        simp
      have digits := @scan_plain { colons := 1, isOpened := brackets, isClosed := brackets } _
        (fun c member => isPlainChar_of_isDigit (isDigit_of_mem_decimal (n := port) member))
        (by simp)
      refine ⟨{ colons := 1, isOpened := brackets, isClosed := brackets }, ?_,
        by simp [AuthorityScan.isComplete]⟩
      simp only [List.foldlM_append, List.foldlM_cons, credentials, host, step?_colon few, digits,
        Option.bind_eq_bind, Option.bind_some, Nat.zero_add]
      simp

/-- A host that may not be sent keeps the authority from being scanned. -/
theorem scan_authority_unsendable {authority : Url.Authority} (normal : authority.IsNormal)
    (unsendable : isSendableHost authority.host = false) :
    (authorityText authority).foldlM AuthorityScan.step? {} = none := by
  obtain ⟨ends, credentials⟩ := scan_credentials normal
  unfold authorityText Url.Authority.renderHost
  simp [List.foldlM_append, credentials, scan_unsendable unsendable]

/-- An authority is taken off the front of what stands behind the `//`. -/
theorem takeAuthority?_text {authority : Url.Authority} (normal : authority.IsNormal)
    {rest : List Char} (stops : ∀ c ∈ rest.head?, endsAuthority c = true) :
    takeAuthority? (authorityText authority ++ rest) =
      if isSendableHost authority.host then some (authorityText authority, rest) else none := by
  have cut : cutBefore (fun c => c == '/' || c == '?' || c == '#')
      (authorityText authority ++ rest) = (authorityText authority, rest) :=
    cutBefore_append (free_authorityText normal) stops
  unfold takeAuthority?
  rw [cut]
  simp only [Option.bind_eq_bind]
  split
  next sendable =>
    obtain ⟨scan, passed, complete⟩ := scan_authority normal sendable
    rw [passed, Option.bind_some, if_pos complete]
  next unsendable =>
    rw [scan_authority_unsendable normal (Bool.eq_false_iff.mpr unsendable), Option.bind_none]

/-! ## Targets -/

/-- The text behind the authority of a URL: its path, its query and its fragment. -/
def suffixText (url : Url) : List Char :=
  url.path.render ++ Url.renderOptional '?' url.query ++ Url.renderOptional '#' url.fragment

theorem isPathChar_path {url : Url} (normal : url.IsNormal) :
    ∀ c ∈ url.path.render, isPathChar c = true := by
  obtain ⟨segments, path, encoded⟩ := normal.path
  have checked : ∀ n < 0x80, inPath (Char.ofNat n) = false →
      isPathChar (Char.ofNat n) = true := by decide
  intro c member
  rw [path] at member
  obtain ⟨segment, listed, within⟩ := List.mem_flatMap.mp member
  rcases List.mem_cons.mp within with rfl | own
  · rfl
  · have known : ∀ c ∈ segment, isPathChar c = true := (encoded segment listed).all checked
    exact known c own

theorem isQueryChar_query {url : Url} (normal : url.IsNormal) {query : List Char}
    (given : url.query = some query) : ∀ c ∈ query, isQueryChar c = true := by
  have checked : ∀ n < 0x80, inSpecialQuery (Char.ofNat n) = false →
      isQueryChar (Char.ofNat n) = true := by decide
  exact (normal.query query given).all checked

/-- A mark that a class of characters leaves out is in no text of the class. -/
theorem free_of_class {isMember : Char → Bool} {mark : Char} (outside : isMember mark = false)
    {cs : List Char} (all : ∀ c ∈ cs, isMember c = true) : ∀ c ∈ cs, (c == mark) = false := by
  intro c member
  rw [beq_eq_false_iff_ne]
  rintro rfl
  rw [all c member] at outside
  cases outside

/-- Only its mark can stand at the front of an optional part. -/
theorem head?_renderOptional (mark : Char) (part : Option (List Char)) :
    ∀ c ∈ (Url.renderOptional mark part).head?, (c == mark) = true := by
  intro c member
  cases part with
  | none => cases member
  | some text =>
      rw [← Option.some.inj member]
      exact beq_self_eq_true mark

/-- Path and query are taken as they are if they hold what they may; the fragment is
dropped. -/
theorem pathAndQuery?_parts {path : List Char} {query : Option (List Char)}
    (fragment : Option (List Char)) (paths : ∀ c ∈ path, isPathChar c = true)
    (queries : ∀ text ∈ query, ∀ c ∈ text, isQueryChar c = true) :
    pathAndQuery? (path ++ Url.renderOptional '?' query ++ Url.renderOptional '#' fragment) =
      some (path, query) := by
  have sent : ∀ c ∈ path ++ Url.renderOptional '?' query, (c == '#') = false := by
    refine List.forall_mem_append.mpr ⟨free_of_class rfl paths, ?_⟩
    cases query with
    | none => nofun
    | some text => exact List.forall_mem_cons.mpr ⟨rfl, free_of_class rfl (queries text rfl)⟩
  unfold pathAndQuery?
  rw [cutBefore_append sent (head?_renderOptional '#' _)]
  simp only
  rw [cutBefore_append (free_of_class rfl paths) (head?_renderOptional '?' _)]
  simp only [List.all_eq_true.mpr paths]
  cases query with
  | none => rfl
  | some text =>
      simp only [Url.renderOptional, List.all_eq_true.mpr (queries text rfl)]
      rfl

theorem pathAndQuery?_text {url : Url} (normal : url.IsNormal) :
    pathAndQuery? (suffixText url) = some (url.path.render, url.query) :=
  pathAndQuery?_parts url.fragment (isPathChar_path normal) fun _ given =>
    isQueryChar_query normal given

/-- How the text of an HTTP URL is put together. -/
theorem render_http {url : Url} (http : url.schemeText = "http") {authority : Url.Authority}
    (given : url.authority = some authority) :
    url.render =
      "http".toList ++ ("://".toList ++ (authorityText authority ++ suffixText url)) := by
  have scheme : url.scheme = "http".toList := by
    rw [← http, Url.schemeText, String.toList_ofList]
  simp [Url.render, Url.renderAuthority, authorityText, suffixText, scheme, given]

/-- The text behind an authority begins with the end of the authority, or is empty. -/
theorem head?_suffixText {url : Url} (normal : url.IsNormal) :
    ∀ c ∈ (suffixText url).head?, endsAuthority c = true := by
  obtain ⟨segments, path, -⟩ := normal.path
  unfold suffixText
  rw [path]
  cases segments with
  | cons segment rest =>
      rintro c ⟨⟩
      rfl
  | nil =>
      cases url.query with
      | some query =>
          rintro c ⟨⟩
          rfl
      | none =>
          cases url.fragment with
          | some fragment =>
              rintro c ⟨⟩
              rfl
          | none => nofun

/-- The text of an HTTP URL is a target, and its parts are those of the URL, unless it
is too long or has a host that no target may hold. -/
theorem parse?_text {url : Url} (normal : url.IsNormal) (http : url.schemeText = "http")
    {authority : Url.Authority} (given : url.authority = some authority) :
    parse? url.text =
      if url.text.utf8ByteSize ≤ maxLength ∧ isSendableHost authority.host = true then
        some { scheme := some "http".toList, authority := some (authorityText authority)
               path := url.path.render, query := url.query }
      else none := by
  have own : authority.IsNormal := by
    obtain ⟨other, same, known⟩ := normal.authority
    rw [given] at same
    cases same
    exact known
  have scheme : takeScheme? url.render =
      some ("http".toList, authorityText authority ++ suffixText url) := by
    have free : ∀ c ∈ "http".toList, (!isSchemeChar c) = false :=
      List.all_iff_forall_prop.mp (by decide)
    unfold takeScheme?
    rw [render_http http given, cutBefore_append free (by rintro c ⟨⟩; rfl)]
    rfl
  have full : parseFull? url.render = if isSendableHost authority.host = true then
      some { scheme := some "http".toList, authority := some (authorityText authority)
             path := url.path.render, query := url.query } else none := by
    unfold parseFull?
    rw [scheme]
    simp only [takeAuthority?_text own (head?_suffixText normal)]
    split
    · have filled : (!(authorityText authority).isEmpty) = true := by
        simpa using authorityText_ne_nil own
      simp only [pathAndQuery?_text normal, Option.bind_eq_bind, Option.bind_some, filled]
      rfl
    · rfl
  unfold parse?
  by_cases short : url.text.utf8ByteSize ≤ maxLength
  · obtain ⟨rest, shape⟩ : ∃ rest, url.render = 'h' :: rest := ⟨_, render_http http given⟩
    rw [if_neg (Nat.not_lt.mpr short), Url.text, String.toList_ofList, ← Url.text]
    simp only [short, true_and]
    rw [← full, shape]
    rfl
  · rw [if_pos (Nat.lt_of_not_le short), if_neg (fun both => short both.1)]

end PanelBoard.Http.Uri
