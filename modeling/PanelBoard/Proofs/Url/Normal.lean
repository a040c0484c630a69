import PanelBoard.Proofs.Success
import PanelBoard.Proofs.Url.Idna
import PanelBoard.Proofs.Url.Ipv6
import PanelBoard.Proofs.Url.Percent
import PanelBoard.Url.Parse

/-!
# The normal form of special URLs

A URL with a special scheme has a host and a hierarchy, and each of its parts is
encoded for its place, whichever reference it was read from and against which
base. Nothing is said of file URLs and of schemes that are not special.
-/

namespace PanelBoard.Url

open PanelBoard.Text PanelBoard.Url.Percent

/-- A host of a special URL. -/
def Host.IsNormal : Host → Prop
  | .name text => text ≠ [] ∧ ∀ c ∈ text, Idna.isHostChar c = true
  | .ipv4 _ => True
  | .ipv6 pieces => pieces.length = 8

/-- An authority of a special URL. -/
structure Authority.IsNormal (authority : Authority) : Prop where
  username : Encoded inUserinfo authority.username
  password : ∀ password ∈ authority.password, Encoded inUserinfo password
  host : authority.host.IsNormal

/-- The normal form of a special URL. -/
structure IsNormal (url : Url) : Prop where
  authority : ∃ authority, url.authority = some authority ∧ authority.IsNormal
  path : ∃ segments, url.path = .segments segments ∧ ∀ segment ∈ segments, Encoded inPath segment
  query : ∀ query ∈ url.query, Encoded inSpecialQuery query

theorem encoded_nil (mustEncode : Char → Bool) : Encoded mustEncode [] := nofun

/-! ## Authority -/

theorem Host.isNormal_parseBracketed {cs : List Char} {host : Host}
    (read : Host.parseBracketed cs = .ok host) : host.IsNormal := by
  unfold Host.parseBracketed at read
  split at read
  · split at read
    next pieces parsed =>
      cases read
      exact Ipv6.length_parse? parsed
    next => cases read
  · cases read

theorem Host.isNormal_parseName {cs : List Char} {host : Host}
    (read : Host.parseName cs = .ok host) : host.IsNormal := by
  unfold Host.parseName at read
  split at read
  next => cases read
  next => cases read
  next domain nonempty looked =>
    split at read
    next =>
      split at read
      next => cases read; trivial
      next => cases read
    next =>
      cases read
      obtain ⟨name, -, ascii⟩ := Option.bind_eq_some_iff.mp looked
      exact ⟨nonempty, Idna.isHostChar_toAscii? ascii⟩

theorem Host.isNormal_parse {cs : List Char} {host : Host} (read : Host.parse cs = .ok host) :
    host.IsNormal := by
  unfold Host.parse at read
  split at read
  · exact Host.isNormal_parseBracketed read
  · exact Host.isNormal_parseName read

theorem isNormal_parseHost {cs : List Char} {host : Host}
    (read : parseHost .special cs = .ok host) : host.IsNormal := by
  simp only [parseHost] at read
  split at read
  · cases read
  · exact Host.isNormal_parse read

theorem encoded_takeCredentials {kind : SchemeKind} {cs username rest : List Char}
    {password : Option (List Char)}
    (taken : takeCredentials kind cs = .ok (username, password, rest)) :
    Encoded inUserinfo username ∧ ∀ text ∈ password, Encoded inUserinfo text := by
  unfold takeCredentials at taken
  simp only at taken
  split at taken
  next => cases taken; exact ⟨encoded_nil _, nofun⟩
  next =>
    split at taken
    · cases taken; exact ⟨encoded_nil _, nofun⟩
    · cases taken
  next => cases taken; exact ⟨encoded_nil _, nofun⟩
  next credentials host _ =>
    cases taken
    refine ⟨encoded_encode_inUserinfo _, ?_⟩
    intro text member
    split at member
    · rw [← Option.some.inj member]
      exact encoded_encode_inUserinfo _
    · cases member

/-- The port behind a host, and what follows it. -/
def portBehind (host : Host) (afterHost : List Char) :
    Except ParseError (Option Nat × List Char) :=
  match afterHost with
  | ':' :: afterColon => if host == .name [] then .error .emptyHost else takePort afterColon
  | _ => .ok (none, afterHost)

theorem portBehind_colon (host : Host) (afterColon : List Char) :
    portBehind host (':' :: afterColon) =
      if host == .name [] then .error .emptyHost else takePort afterColon :=
  rfl

theorem portBehind_of_ne {host : Host} {afterHost : List Char}
    (other : ∀ afterColon, afterHost = ':' :: afterColon → False) :
    portBehind host afterHost = .ok (none, afterHost) := by
  unfold portBehind
  split
  · exact (other _ rfl).elim
  · rfl

/-- The authority of its parts. Without a host there is no user, and the usual port of
the scheme is left out. -/
def assemble (scheme username : List Char) (password : Option (List Char)) (host : Host)
    (port : Option Nat) : Except ParseError Authority :=
  if host == .name [] && !(username.isEmpty && password.isNone) then .error .emptyHost
  else .ok { username, password, host, port := if port == defaultPort? scheme then none else port }

/-- An authority is read part by part. -/
theorem takeAuthority_eq (scheme cs : List Char) :
    takeAuthority scheme cs = (do
      let (username, password, after) ← takeCredentials (.of scheme) cs
      let host ← parseHost (.of scheme) (takeHost (.of scheme) false after).1
      let (port, rest) ← portBehind host (takeHost (.of scheme) false after).2
      let authority ← assemble scheme username password host port
      return (authority, rest)) := by
  have last (username : List Char) (password : Option (List Char)) (host : Host)
      (port : Option Nat) (rest : List Char) :
      (do
        let authority ← assemble scheme username password host port
        return (authority, rest)) =
      if host == .name [] && !(username.isEmpty && password.isNone) then .error .emptyHost
      else .ok ({ username, password, host
                  port := if port == defaultPort? scheme then none else port }, rest) := by
    unfold assemble
    split <;> rfl
  simp only [last]
  unfold takeAuthority
  refine bind_congr fun credentials => bind_congr fun host => ?_
  simp only
  split
  next cut =>
    rw [cut, portBehind_colon]
    split <;> rfl
  next other => rw [portBehind_of_ne other]

theorem takeAuthority_ok_iff {scheme cs rest : List Char} {authority : Authority} :
    takeAuthority scheme cs = .ok (authority, rest) ↔ ∃ username password after host port,
      takeCredentials (.of scheme) cs = .ok (username, password, after) ∧
      parseHost (.of scheme) (takeHost (.of scheme) false after).1 = .ok host ∧
      portBehind host (takeHost (.of scheme) false after).2 = .ok (port, rest) ∧
      assemble scheme username password host port = .ok authority := by
  rw [takeAuthority_eq]
  constructor
  · intro taken
    obtain ⟨⟨username, password, after⟩, credentials, taken⟩ := exists_of_bind_eq_ok taken
    obtain ⟨host, hosted, taken⟩ := exists_of_bind_eq_ok taken
    obtain ⟨⟨port, behind⟩, ported, taken⟩ := exists_of_bind_eq_ok taken
    obtain ⟨whole, assembled, made⟩ := exists_of_bind_eq_ok taken
    cases made
    exact ⟨username, password, after, host, port, credentials, hosted, ported, assembled⟩
  · rintro ⟨username, password, after, host, port, credentials, hosted, ported, assembled⟩
    simp only [credentials, hosted, ported, assembled, bind, Except.bind]
    rfl

theorem isNormal_takeAuthority {scheme cs rest : List Char} {authority : Authority}
    (special : SchemeKind.of scheme = .special)
    (taken : takeAuthority scheme cs = .ok (authority, rest)) : authority.IsNormal := by
  obtain ⟨username, password, after, host, port, credentials, hosted, -, assembled⟩ :=
    takeAuthority_ok_iff.mp taken
  rw [special] at hosted
  unfold assemble at assembled
  split at assembled
  · cases assembled
  · cases assembled
    exact ⟨(encoded_takeCredentials credentials).1, (encoded_takeCredentials credentials).2,
      isNormal_parseHost hosted⟩

/-! ## Path and query -/

section Path

variable {directory : List (List Char)}

/-- Going along a segment keeps a beginning of the directory and may add the segment or
an empty one; only file paths have drives. -/
theorem exists_enter (directory : List (List Char)) (segment : List Char) (isLast : Bool) :
    ∃ kept added, enter .special directory segment isLast = directory.take kept ++ added ∧
      ∀ other ∈ added, other = segment ∨ other = [] := by
  have close (kept : Nat) : ∃ count added,
      (if isLast then directory.take kept ++ [[]] else directory.take kept) =
        directory.take count ++ added ∧ ∀ other ∈ added, other = segment ∨ other = [] := by
    cases isLast with
    | true => exact ⟨kept, [[]], rfl, fun other member => .inr (List.mem_singleton.mp member)⟩
    | false => exact ⟨kept, [], (List.append_nil _).symm, nofun⟩
  have whole : directory = directory.take directory.length := List.take_length.symm
  have parent : ∃ kept, parentOf directory = directory.take kept := by
    unfold parentOf
    split
    · exact ⟨_, whole⟩
    · exact ⟨_, List.dropLast_eq_take⟩
  unfold enter
  simp only
  split
  · obtain ⟨kept, same⟩ := parent
    rw [same]
    exact close kept
  · split
    · have closed := close directory.length
      rwa [← whole] at closed
    · split
      next file => cases file
      next =>
        refine ⟨directory.length, [segment], by rw [← whole], ?_⟩
        exact fun other member => .inl (List.mem_singleton.mp member)

/-- Going along several segments keeps a beginning of the directory and adds some of
them and empty ones. -/
theorem exists_enterAll (directory segments : List (List Char)) :
    ∃ kept added, enterAll .special directory segments = directory.take kept ++ added ∧
      ∀ other ∈ added, other ∈ segments ∨ other = [] := by
  induction segments generalizing directory with
  | nil => exact ⟨directory.length, [], by rw [enterAll, List.take_length, List.append_nil], nofun⟩
  | cons segment rest ih =>
      cases rest with
      | nil =>
          obtain ⟨kept, added, same, new⟩ := exists_enter directory segment true
          exact ⟨kept, added, same, fun other member => (new other member).imp_left
            List.mem_singleton.mpr⟩
      | cons second rest =>
          obtain ⟨kept, added, same, new⟩ := exists_enter directory segment false
          obtain ⟨count, later, all, newer⟩ := ih (enter .special directory segment false)
          refine ⟨min count kept, added.take (count - (directory.take kept).length) ++ later,
            ?_, ?_⟩
          · rw [enterAll, all, same, List.take_append, List.take_take, List.append_assoc]
            · exact List.cons_ne_nil _ _
          · refine List.forall_mem_append.mpr ⟨fun other member => ?_, fun other member => ?_⟩
            · rcases new other (List.mem_of_mem_take member) with rfl | empty
              · exact .inl List.mem_cons_self
              · exact .inr empty
            · exact (newer other member).imp_left (List.mem_cons_of_mem _)

theorem encoded_enterAll (encoded : ∀ segment ∈ directory, Encoded inPath segment)
    {segments : List (List Char)} (new : ∀ segment ∈ segments, Encoded inPath segment) :
    ∀ other ∈ enterAll .special directory segments, Encoded inPath other := by
  obtain ⟨kept, added, same, known⟩ := exists_enterAll directory segments
  rw [same]
  refine List.forall_mem_append.mpr ⟨fun other member => ?_, fun other member => ?_⟩
  · exact encoded other (List.mem_of_mem_take member)
  · rcases known other member with own | rfl
    · exact new other own
    · exact encoded_nil _

theorem encoded_takePath (encoded : ∀ segment ∈ directory, Encoded inPath segment)
    (cs : List Char) :
    ∀ segment ∈ (takePath .special directory cs).1, Encoded inPath segment := by
  apply encoded_enterAll encoded
  intro segment member
  obtain ⟨source, -, rfl⟩ := List.mem_map.mp member
  exact encoded_encode_inPath source

theorem encoded_takePathStart (cs : List Char) :
    ∀ segment ∈ (takePathStart .special cs).1, Encoded inPath segment := by
  unfold takePathStart
  split
  · intro segment member
    rw [List.mem_singleton.mp member]
    exact encoded_nil _
  · have root : ∀ segment ∈ ([] : List (List Char)), Encoded inPath segment := by
      intro segment member
      cases member
    split
    · exact encoded_takePath root _
    · exact encoded_takePath root _

theorem encoded_directoryOf (encoded : ∀ segment ∈ directory, Encoded inPath segment) :
    ∀ segment ∈ directoryOf .special directory, Encoded inPath segment :=
  fun segment member => encoded segment (List.dropLast_subset _ member)

end Path

theorem encoded_takeQuery (cs : List Char) :
    ∀ query ∈ (takeQuery .special cs).1, Encoded inSpecialQuery query := by
  intro query member
  unfold takeQuery at member
  split at member
  · rw [← Option.some.inj member]
    exact encoded_encode_inSpecialQuery _
  · cases member

/-! ## Reading -/

/-- What a URL from behind the `//` of its scheme is made of. -/
theorem afterSlashes_ok {scheme cs : List Char} {url : Url}
    (read : afterSlashes scheme cs = .ok url) :
    ∃ authority rest, takeAuthority scheme cs = .ok (authority, rest) ∧
      let path := takePathStart (.of scheme) rest
      let suffix := takeQuery (.of scheme) path.2
      url = { scheme, authority := some authority, path := .segments path.1
              query := suffix.1, fragment := suffix.2 } := by
  obtain ⟨⟨authority, rest⟩, taken, made⟩ := exists_of_bind_eq_ok read
  cases made
  exact ⟨authority, rest, taken, rfl⟩

theorem isNormal_afterSlashes {scheme cs : List Char} {url : Url}
    (special : SchemeKind.of scheme = .special) (read : afterSlashes scheme cs = .ok url) :
    url.IsNormal := by
  obtain ⟨authority, rest, taken, rfl⟩ := afterSlashes_ok read
  rw [special]
  exact ⟨⟨_, rfl, isNormal_takeAuthority special taken⟩, ⟨_, rfl, encoded_takePathStart _⟩,
    encoded_takeQuery _⟩

theorem kind_afterSlashes {scheme cs : List Char} {url : Url}
    (read : afterSlashes scheme cs = .ok url) : url.kind = .of scheme := by
  obtain ⟨authority, rest, -, rfl⟩ := afterSlashes_ok read
  rfl

/-- A reference without a path keeps the scheme, the authority and the path. -/
theorem joinSuffix?_cases {base url : Url} {cs : List Char}
    (read : joinSuffix? base cs = some url) :
    url.scheme = base.scheme ∧ url.authority = base.authority ∧ url.path = base.path ∧
      (url.query = base.query ∨ ∃ rest, url.query = (takeQuery base.kind rest).1) := by
  unfold joinSuffix? at read
  split at read
  · cases read
    exact ⟨rfl, rfl, rfl, .inl rfl⟩
  · cases read
    exact ⟨rfl, rfl, rfl, .inl rfl⟩
  next rest =>
    cases read
    exact ⟨rfl, rfl, rfl, .inr ⟨'?' :: rest, rfl⟩⟩
  · cases read

theorem kind_ofFile (host : Host) (segments : List (List Char)) (rest : List Char) :
    (ofFile host segments rest).kind = .file := by
  rw [kind, SchemeKind.of]
  exact if_pos rfl

theorem kind_joinFileRoot (base : Option Url) (cs : List Char) :
    (joinFileRoot base cs).kind = .file := by
  unfold joinFileRoot
  simp only
  split
  · split
    · exact kind_ofFile _ _ _
    · split
      · split <;> exact kind_ofFile _ _ _
      · exact kind_ofFile _ _ _
  · exact kind_ofFile _ _ _

theorem kind_joinFileHost {cs : List Char} {url : Url} (read : joinFileHost cs = .ok url) :
    url.kind = .file := by
  unfold joinFileHost at read
  simp only at read
  split at read
  · cases read
    exact kind_ofFile _ _ _
  · obtain ⟨_, -, made⟩ := exists_of_bind_eq_ok read
    cases made
    exact kind_ofFile _ _ _

/-- A reference to a file is a file. -/
theorem kind_joinFile {base : Option Url} {cs : List Char} {url : Url}
    (files : ∀ file ∈ base, file.kind = .file) (read : joinFile base cs = .ok url) :
    url.kind = .file := by
  have suffix {file : Url} (given : file ∈ base) {rest : List Char}
      (joined : joinSuffix? file rest = some url) : url.kind = .file := by
    rw [kind, (joinSuffix?_cases joined).1]
    exact files file given
  unfold joinFile at read
  split at read
  · split at read
    · split at read
      · split at read
        · exact kind_joinFileHost read
        · cases read
          exact kind_joinFileRoot _ _
      · cases read
        exact kind_joinFileRoot _ _
    · split at read
      · cases read
        exact kind_ofFile _ _ _
      · split at read
        next joined =>
          cases read
          exact suffix rfl joined
        next =>
          cases read
          exact kind_ofFile _ _ _
  · split at read
    next joined =>
      cases read
      obtain ⟨file, given, joined⟩ := Option.bind_eq_some_iff.mp joined
      exact suffix given joined
    next =>
      cases read
      exact kind_ofFile _ _ _

theorem kind_parseOther {scheme cs : List Char} {url : Url}
    (read : parseOther scheme cs = .ok url) : url.kind = .of scheme := by
  unfold parseOther at read
  split at read
  · exact kind_afterSlashes read
  · cases read
    rfl
  · cases read
    rfl

/-- A relative reference keeps the kind of its base. -/
theorem kind_joinRelative {base url : Url} {cs : List Char}
    (read : joinRelative base cs = .ok url) : url.kind = base.kind := by
  unfold joinRelative at read
  simp only at read
  split at read
  next joined =>
    cases read
    rw [kind, (joinSuffix?_cases joined).1, kind]
  next =>
    split at read
    · cases read
      rfl
    · cases read
      rfl
    · exact kind_afterSlashes read
    · exact kind_afterSlashes read

theorem isNormal_joinRelative {base url : Url} {cs : List Char} (special : base.kind = .special)
    (normal : base.IsNormal) (read : joinRelative base cs = .ok url) : url.IsNormal := by
  obtain ⟨segments, path, encoded⟩ := normal.path
  have list : base.path.toSegments = segments := by
    rw [path]
    rfl
  unfold joinRelative at read
  simp only [special, list] at read
  split at read
  next joined =>
    cases read
    obtain ⟨-, authority, kept, query⟩ := joinSuffix?_cases joined
    refine ⟨authority ▸ normal.authority, kept ▸ normal.path, ?_⟩
    rcases query with same | ⟨rest, own⟩
    · exact same ▸ normal.query
    · rw [own, special]
      exact encoded_takeQuery rest
  next =>
    split at read
    · cases read
      exact ⟨normal.authority, ⟨_, rfl, encoded_takePath (encoded_directoryOf encoded) _⟩,
        encoded_takeQuery _⟩
    · cases read
      exact ⟨normal.authority, ⟨_, rfl, encoded_takePath (by simp) _⟩, encoded_takeQuery _⟩
    · exact isNormal_afterSlashes special read
    · exact isNormal_afterSlashes special read

/-- A reference that is read as a special URL gives one in normal form, if a special
base is in normal form. -/
theorem isNormal_resolve {base : Option Url} {reference : String} {url : Url}
    (bases : ∀ special ∈ base, special.kind = .special → special.IsNormal)
    (read : resolve base reference = .ok url) (special : url.kind = .special) : url.IsNormal := by
  unfold resolve at read
  simp only at read
  split at read
  next scheme rest _ =>
    unfold joinWithScheme at read
    simp only at read
    split at read
    next file =>
      have same : ∀ other ∈ base.filter (·.scheme == scheme), other.kind = .file := by
        intro other member
        obtain ⟨-, own⟩ := Option.filter_eq_some_iff.mp member
        rw [kind, beq_iff_eq.mp own, file]
      rw [kind_joinFile same read] at special
      cases special
    next other =>
      rw [kind_parseOther read, other] at special
      cases special
    next special =>
      split at read
      next relative given =>
        obtain ⟨within, own⟩ := Option.filter_eq_some_iff.mp given
        have kind : relative.kind = .special := by rw [kind, beq_iff_eq.mp own, special]
        split at read
        · exact isNormal_joinRelative kind (bases relative within kind) read
        · exact isNormal_afterSlashes special read
      next => exact isNormal_afterSlashes special read
  next =>
    unfold joinWithoutScheme at read
    split at read
    next => cases read
    next relative =>
      split at read
      · cases read
        have normal := bases relative rfl special
        exact ⟨normal.authority, normal.path, normal.query⟩
      · cases read
      · split at read
        next file =>
          have same : ∀ other ∈ some relative, other.kind = .file := by
            rintro other ⟨⟩
            exact beq_iff_eq.mp file
          rw [kind_joinFile same read] at special
          cases special
        next =>
          have kind : relative.kind = .special := (kind_joinRelative read).symm.trans special
          exact isNormal_joinRelative kind (bases relative rfl kind) read

/-- A special URL that was read without a base is in normal form. -/
theorem isNormal_parse {reference : String} {url : Url} (read : parse reference = .ok url)
    (special : url.kind = .special) : url.IsNormal := by
  refine isNormal_resolve ?_ read special
  intro other given
  cases given

/-- A special URL that was read against a base that was read is in normal form. -/
theorem isNormal_join {written reference : String} {base url : Url}
    (parsed : parse written = .ok base) (joined : base.join reference = .ok url)
    (special : url.kind = .special) : url.IsNormal := by
  refine isNormal_resolve ?_ joined special
  rintro other ⟨⟩ kind
  exact isNormal_parse parsed kind

end PanelBoard.Url
