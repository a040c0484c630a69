import Mathlib.Data.Bool.AllAny
import PanelBoard.Proofs.Url.Normal

/-!
# URLs below an address

An authority is read in the same way whatever path follows it, so the URL that
is made from an address and a text behind its slash has that authority, and the
text gives its path.
-/

namespace PanelBoard.Url

open PanelBoard.Text PanelBoard.Url.Percent

/-! ## Authorities in front of a path -/

section Authority

variable {written rest : List Char}

/-- Reading a host stops where the authority ends. -/
theorem takeHost_append {kind : SchemeKind} (plain : ∀ c ∈ written, endsAuthority kind c = false)
    (stops : ∀ c ∈ rest.head?, endsAuthority kind c = true) (inBrackets : Bool) :
    takeHost kind inBrackets (written ++ rest) =
      ((takeHost kind inBrackets written).1, (takeHost kind inBrackets written).2 ++ rest) := by
  induction written generalizing inBrackets with
  | nil =>
      cases rest with
      | nil => rfl
      | cons c rest =>
          have ends : ((c == ':' && !inBrackets) || endsAuthority kind c) = true := by
            rw [stops c rfl, Bool.or_true]
          exact if_pos ends
  | cons c written ih =>
      have parts := List.forall_mem_cons.mp plain
      rw [List.cons_append, takeHost, takeHost]
      split
      next => rfl
      next => simp only [ih parts.2]

/-- A port that ends its text is read in the same way in front of a path. -/
theorem takePort_append {port : Option Nat} (read : takePort written = .ok (port, []))
    (stops : ∀ c ∈ rest.head?, endsAuthority .special c = true) :
    takePort (written ++ rest) = .ok (port, rest) := by
  cases cut : cutBefore (fun c => !c.isDigit) written with
  | mk digits tail =>
      obtain ⟨same, free, -⟩ := eq_append_of_cutBefore cut
      have ends : ∀ c ∈ rest.head?, (!c.isDigit) = true := by
        intro c first
        have ending := stops c first
        simp only [endsAuthority, isSlash, Bool.or_eq_true, Bool.and_eq_true, beq_iff_eq] at ending
        rcases ending with ((rfl | ⟨-, rfl⟩) | rfl) | rfl <;> rfl
      have closed : rest.head?.all (endsAuthority .special) = true := by
        cases rest with
        | nil => rfl
        | cons c rest => exact stops c rfl
      unfold takePort at read ⊢
      simp only [cut] at read
      split at read
      next =>
        split at read
        next unread =>
          cases read
          rw [same, List.append_nil, cutBefore_append free ends]
          simp only [unread, closed, if_true]
        next number read_ =>
          split at read
          next small =>
            cases read
            rw [same, List.append_nil, cutBefore_append free ends]
            simp only [read_, closed, small, if_true]
          next => cases read
      next => cases read

/-- User name and password are read in the same way if a host follows them. -/
theorem takeCredentials_append {kind : SchemeKind} {username after : List Char}
    {password : Option (List Char)} (plain : ∀ c ∈ written, endsAuthority kind c = false)
    (stops : ∀ c ∈ rest.head?, endsAuthority kind c = true)
    (read : takeCredentials kind written = .ok (username, password, after)) (host : after ≠ []) :
    takeCredentials kind (written ++ rest) = .ok (username, password, after ++ rest) ∧
      ∀ c ∈ after, c ∈ written := by
  unfold takeCredentials at read ⊢
  rw [cutBefore_of_free plain] at read
  rw [cutBefore_append plain stops]
  simp only at read ⊢
  cases cut : cutAtLast? (· == '@') written with
  | none =>
      rw [cut] at read
      cases read
      exact ⟨rfl, fun c member => member⟩
  | some parts =>
      obtain ⟨credentials, text⟩ := parts
      obtain ⟨mark, -, same⟩ := eq_append_of_cutAtLast? cut
      rw [cut] at read
      have within : ∀ c ∈ text ++ [], c ∈ written := by
        intro c member
        rw [List.append_nil] at member
        rw [same]
        exact List.mem_append_right _ (List.mem_cons_of_mem _ member)
      cases credentials with
      | nil =>
          cases text with
          | nil =>
              cases read
              exact absurd rfl host
          | cons c text =>
              cases read
              exact ⟨by simp, within⟩
      | cons c credentials =>
          cases read
          exact ⟨by simp, within⟩

/-- The port behind a host is read in the same way in front of a path. -/
theorem portBehind_append {host : Host} {port : Option Nat}
    (read : portBehind host written = .ok (port, []))
    (stops : ∀ c ∈ rest.head?, endsAuthority .special c = true) :
    portBehind host (written ++ rest) = .ok (port, rest) := by
  unfold portBehind at read
  split at read
  next afterColon =>
    split at read
    · cases read
    next named => exact (if_neg named).trans (takePort_append read stops)
  next afterHost =>
    cases read
    apply portBehind_of_ne
    rintro afterColon rfl
    cases stops ':' rfl

/-- An authority of a special URL is read in the same way in front of a path. -/
theorem takeAuthority_append {scheme : List Char} {authority : Authority}
    (special : SchemeKind.of scheme = .special)
    (plain : ∀ c ∈ written, endsAuthority .special c = false)
    (stops : ∀ c ∈ rest.head?, endsAuthority .special c = true)
    (read : takeAuthority scheme written = .ok (authority, [])) :
    takeAuthority scheme (written ++ rest) = .ok (authority, rest) := by
  obtain ⟨username, password, after, host, port, credentials, hosted, ported, assembled⟩ :=
    takeAuthority_ok_iff.mp read
  rw [special] at credentials hosted ported
  have given : after ≠ [] := by
    rintro rfl
    cases hosted
  obtain ⟨before, within⟩ := takeCredentials_append plain stops credentials given
  have rests := takeHost_append (fun c member => plain c (within c member)) stops false
  refine takeAuthority_ok_iff.mpr ⟨username, password, after ++ rest, host, port, ?_, ?_, ?_,
    assembled⟩
  · rw [special, before]
  · rw [special, rests, hosted]
  · rw [special, rests]
    exact portBehind_append ported stops

end Authority

/-! ## Texts that count -/

/-- What counts of a text at the end of a URL: nothing of the controls and blanks at
its end, and no tabs and line ends. -/
def keptEnd (cs : List Char) : List Char :=
  (cs.reverse.dropWhile (fun c => c.toNat ≤ 0x20)).reverse.filter
    (fun c => !(c == '\t' || c == '\n' || c == '\r'))

theorem filter_visible {front : List Char} (visible : ∀ c ∈ front, 0x20 < c.toNat) :
    front.filter (fun c => !(c == '\t' || c == '\n' || c == '\r')) = front := by
  refine List.filter_eq_self.mpr fun c member => ?_
  have high := visible c member
  simp only [Bool.not_eq_true', Bool.or_eq_false_iff, beq_eq_false_iff_ne]
  refine ⟨⟨?_, ?_⟩, ?_⟩ <;> rintro rfl <;> exact absurd high (by decide)

/-- What is visible in front of the end counts whole. -/
theorem keptEnd_append {front : List Char} (visible : ∀ c ∈ front, 0x20 < c.toNat)
    (nonempty : front ≠ []) (cs : List Char) : keptEnd (front ++ cs) = front ++ keptEnd cs := by
  have stays : front.reverse.dropWhile (fun c => c.toNat ≤ 0x20) = front.reverse := by
    obtain ⟨last, others, same⟩ := List.exists_cons_of_ne_nil
      (mt List.reverse_eq_nil_iff.mp nonempty)
    have high := visible last (List.mem_reverse.mp (same ▸ List.mem_cons_self))
    rw [same]
    exact List.dropWhile_cons_of_neg (by simp; omega)
  unfold keptEnd
  rw [List.reverse_append, List.dropWhile_append]
  split
  next empty =>
    have none : cs.reverse.dropWhile (fun c => c.toNat ≤ 0x20) = [] := by simpa using empty
    rw [stays, none, List.reverse_reverse, filter_visible visible]
    simp
  next =>
    rw [List.reverse_append, List.reverse_reverse, List.filter_append, filter_visible visible]

/-- A URL that begins visibly counts but for its end. -/
theorem significant_append {front : List Char} (visible : ∀ c ∈ front, 0x20 < c.toNat)
    (nonempty : front ≠ []) (cs : List Char) : significant (front ++ cs) = front ++ keptEnd cs := by
  obtain ⟨first, others, same⟩ := List.exists_cons_of_ne_nil nonempty
  have high := visible first (same ▸ List.mem_cons_self)
  have begins : (front ++ cs).dropWhile (fun c => c.toNat ≤ 0x20) = front ++ cs := by
    rw [same, List.cons_append]
    exact List.dropWhile_cons_of_neg (by simp; omega)
  rw [← keptEnd_append visible nonempty, significant, trimBoth, begins, keptEnd]

theorem dropEnd_sublist (stop : Char → Bool) (cs : List Char) :
    (cs.reverse.dropWhile stop).reverse.Sublist cs := by
  rw [← List.reverse_sublist, List.reverse_reverse]
  exact List.dropWhile_sublist _

/-- What counts of a text stands in it in the same order. -/
theorem keptEnd_sublist (cs : List Char) : (keptEnd cs).Sublist cs :=
  List.filter_sublist.trans (dropEnd_sublist _ cs)

/-- All of a text counts if it has no tabs and line ends and ends visibly. -/
theorem keptEnd_eq_self_iff {cs : List Char} : keptEnd cs = cs ↔
    (∀ c ∈ cs.getLast?, 0x20 < c.toNat) ∧ ∀ c ∈ cs, c ∉ ['\t', '\n', '\r'] := by
  have blank (c : Char) : (!(c == '\t' || c == '\n' || c == '\r')) = true ↔
      c ∉ ['\t', '\n', '\r'] := by simp [and_assoc]
  constructor
  · intro same
    have trimmed : (cs.reverse.dropWhile (fun c => c.toNat ≤ 0x20)).reverse = cs := by
      have whole : (keptEnd cs).Sublist
          (cs.reverse.dropWhile (fun c => c.toNat ≤ 0x20)).reverse := List.filter_sublist
      rw [same] at whole
      exact (dropEnd_sublist _ cs).eq_of_length_le whole.length_le
    rw [keptEnd, trimmed, List.filter_eq_self] at same
    refine ⟨fun c last => ?_, fun c member => (blank c).mp (same c member)⟩
    rw [← List.head?_reverse, ← List.reverse_eq_iff.mp trimmed] at last
    have visible := List.head?_dropWhile_not (fun c : Char => c.toNat ≤ 0x20) cs.reverse
    rw [Option.mem_def.mp last] at visible
    simpa using visible
  · rintro ⟨ends, clean⟩
    have trimmed : cs.reverse.dropWhile (fun c => c.toNat ≤ 0x20) = cs.reverse := by
      cases reversed : cs.reverse with
      | nil => rfl
      | cons c rest =>
          have visible := ends c (by rw [← List.head?_reverse, reversed]; rfl)
          exact List.dropWhile_cons_of_neg (by simp; omega)
    rw [keptEnd, trimmed, List.reverse_reverse, List.filter_eq_self]
    exact fun c member => (blank c).mpr (clean c member)

/-! ## Dot segments -/

/-- Both spellings of a dot stand for its byte. -/
theorem decode_of_takeDot? {cs rest : List Char} (taken : takeDot? cs = some rest) :
    decode cs = 0x2E :: decode rest := by
  have two : hexValue? '2' = some 2 := rfl
  have small : hexValue? 'e' = some 14 := rfl
  have capital : hexValue? 'E' = some 14 := rfl
  unfold takeDot? at taken
  split at taken
  · cases taken
    exact decode_cons_of_ne rfl (by decide) _
  · cases taken
    exact decode_triple two small _
  · cases taken
    exact decode_triple two capital _
  · cases taken

theorem decode_of_isSingleDot {cs : List Char} (dot : isSingleDot cs = true) :
    decode cs = Utf8.bytes "." :=
  decode_of_takeDot? (eq_of_beq dot)

theorem decode_of_isDoubleDot {cs : List Char} (dots : isDoubleDot cs = true) :
    decode cs = Utf8.bytes ".." := by
  obtain ⟨rest, first, second⟩ := Option.bind_eq_some_iff.mp (eq_of_beq dots)
  rw [decode_of_takeDot? first, decode_of_takeDot? second]
  rfl

/-- A path that is entered by segments ends in one. -/
theorem enterAll_ne_nil (directory : List (List Char)) {segments : List (List Char)}
    (some : segments ≠ []) : enterAll .special directory segments ≠ [] := by
  induction segments generalizing directory with
  | nil => exact absurd rfl some
  | cons segment rest ih =>
      cases rest with
      | cons second rest => exact ih _ (List.cons_ne_nil _ _)
      | nil =>
          rw [enterAll, enter]
          simp only [if_true]
          split
          · exact List.append_ne_nil_of_right_ne_nil _ (List.cons_ne_nil _ _)
          · split
            · exact List.append_ne_nil_of_right_ne_nil _ (List.cons_ne_nil _ _)
            · split
              next file => cases file
              next => exact List.append_ne_nil_of_right_ne_nil _ (List.cons_ne_nil _ _)

/-! ## URLs -/

/-- A text that is read as an authority of HTTP, all of it. -/
structure IsAddress (written : List Char) (authority : Authority) : Prop where
  visible : ∀ c ∈ written, 0x20 < c.toNat
  plain : ∀ c ∈ written, endsAuthority .special c = false
  reads : takeAuthority "http".toList written = .ok (authority, [])

/-- The URL below an address that a text gives, of which all counts. -/
def below (authority : Authority) (cs : List Char) : Url :=
  let path := takePath .special [] cs
  let suffix := takeQuery .special path.2
  { scheme := "http".toList, authority := some authority, path := .segments path.1
    query := suffix.1, fragment := suffix.2 }

/-- The path below an address is that of the segments in front of the query. -/
theorem path_below (authority : Authority) (cs : List Char) :
    (below authority cs).path = .segments (enterAll .special []
      ((splitOn (isSlash .special) (cutBefore (fun c => c == '?' || c == '#') cs).1).map
        (encode inPath))) :=
  rfl

theorem IsAddress.ne_nil {written : List Char} {authority : Authority}
    (address : IsAddress written authority) : written ≠ [] := by
  rintro rfl
  have reads := address.reads
  cases reads

/-- A URL is read below the address that it begins with. -/
theorem parse_below {written : List Char} {authority : Authority}
    (address : IsAddress written authority) (cs : List Char) :
    parse (String.ofList ("http://".toList ++ (written ++ '/' :: cs))) =
      .ok (below authority (keptEnd cs)) := by
  have kind : SchemeKind.of "http".toList = .special := rfl
  have kept : significant ("http://".toList ++ (written ++ '/' :: cs)) =
      "http".toList ++ ("://".toList ++ (written ++ '/' :: keptEnd cs)) := by
    have visible : ∀ c ∈ "http://".toList ++ (written ++ ['/']), 0x20 < c.toNat :=
      List.forall_mem_append.mpr ⟨List.all_iff_forall_prop.mp (by decide),
        List.forall_mem_append.mpr ⟨address.visible, List.all_iff_forall_prop.mp (by decide)⟩⟩
    have counted := significant_append visible (by simp) cs
    simpa using counted
  have scheme : takeScheme? ("http".toList ++ ("://".toList ++ (written ++ '/' :: keptEnd cs))) =
      some ("http".toList, "//".toList ++ (written ++ '/' :: keptEnd cs)) := by
    have free : ∀ c ∈ "http".toList, (!isSchemeChar c) = false :=
      List.all_iff_forall_prop.mp (by decide)
    unfold takeScheme?
    rw [cutBefore_append free (by rintro c ⟨⟩; rfl)]
    rfl
  have slashes : cutBefore (fun c => !(c == '/' || c == '\\'))
      ("//".toList ++ (written ++ '/' :: keptEnd cs)) =
        ("//".toList, written ++ '/' :: keptEnd cs) := by
    apply cutBefore_append (List.all_iff_forall_prop.mp (by decide))
    intro c first
    obtain ⟨head, others, same⟩ := List.exists_cons_of_ne_nil address.ne_nil
    have plain := address.plain head (same ▸ List.mem_cons_self)
    rw [same] at first
    cases first
    rw [Bool.not_eq_true', Bool.or_eq_false_iff]
    refine ⟨?_, ?_⟩ <;> rw [beq_eq_false_iff_ne] <;> rintro rfl <;> cases plain
  have stops : ∀ c ∈ ('/' :: keptEnd cs).head?, endsAuthority .special c = true := by
    rintro c ⟨⟩
    rfl
  have taken := takeAuthority_append kind address.plain stops address.reads
  unfold parse resolve
  rw [String.toList_ofList, kept]
  simp only [scheme, joinWithScheme, kind, slashes, afterSlashes, taken]
  rfl

end PanelBoard.Url
