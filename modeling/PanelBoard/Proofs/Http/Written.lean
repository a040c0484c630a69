import Mathlib.Data.Bool.AllAny
import PanelBoard.Http.Writing
import PanelBoard.Proofs.Http.Replies
import PanelBoard.Proofs.Text.Ascii
import PanelBoard.Proofs.Text.Numerals
import PanelBoard.Proofs.Text.Split

/-!
# Written replies

Replies as they are written are read back: the status line, the field that says how
the body is framed, and the chunks of a body however it is cut into them.
-/

namespace PanelBoard.Http

open PanelBoard.Text

/-! ## Numerals -/

theorem dropWhile_of_free {α : Type} {drop : α → Bool} {xs : List α}
    (free : ∀ x ∈ xs, drop x = false) : xs.dropWhile drop = xs := by
  cases xs with
  | nil => rfl
  | cons x xs => rw [List.dropWhile_cons, free x List.mem_cons_self, if_neg (by decide)]

/-- What the ten digits have in common holds of a decimal numeral. -/
theorem forall_mem_decimal (property : Char → Prop)
    (checked : ∀ digit < 10, property (Nat.digitChar digit)) (n : Nat) :
    ∀ c ∈ decimal n, property c := by
  intro c member
  obtain ⟨digit, within, rfl⟩ := mem_toDigits (by decide) member
  exact checked digit within

theorem mem_numeralBytes {digits : List Char} (property : UInt8 → Prop)
    (digit : ∀ c ∈ digits, property (UInt8.ofNat c.toNat)) :
    ∀ byte ∈ numeralBytes digits, property byte := by
  intro byte member
  obtain ⟨c, inside, rfl⟩ := List.mem_map.mp member
  exact digit c inside

/-- A digit of a size is read as its value. -/
theorem hexByte?_digit {c : Char} {digit : Nat} (value : digitValue? 16 c = some digit) :
    hexByte? (UInt8.ofNat c.toNat) = some digit := by
  rw [digitValue?, Option.filter_eq_some_iff] at value
  rw [hexByte?, ofNat_byte (hexValue?_bounds value.1).2, value.1]

theorem moreSizeDigits_written {digits : List Char} {value size : Nat}
    (read : readDigits 16 value digits = some size) (small : size < sizeBound)
    {stop : UInt8} (stops : hexByte? stop = none) (rest : List UInt8) :
    moreSizeDigits value (numeralBytes digits ++ stop :: rest) = .complete size (stop :: rest) := by
  induction digits generalizing value with
  | nil =>
      cases read
      simp [numeralBytes, moreSizeDigits, stops]
  | cons c digits ih =>
      obtain ⟨digit, valued, read⟩ := readDigits_cons_iff.mp read
      have within : value * 16 + digit < sizeBound :=
        Nat.lt_of_le_of_lt (le_readDigits (by decide) read) small
      rw [numeralBytes, List.map_cons, List.cons_append, moreSizeDigits, hexByte?_digit valued]
      simp only [within, if_true]
      exact ih read

/-! ## Chunks -/

/-- The line of a size is read as the size, and spends nothing on extensions. -/
theorem sizeLine_written {size : Nat} (small : size < sizeBound) (spent : Nat)
    (rest : List UInt8) :
    sizeLine spent (numeralBytes (lowerHex size) ++ lineBreak ++ rest) =
      .complete (size, spent) rest := by
  have read : readDigits 16 0 (lowerHex size) = some size :=
    readDigits_toDigits (by decide) (by decide) size
  obtain ⟨c, digits, written⟩ := List.exists_cons_of_ne_nil (l := lowerHex size) Nat.toDigits_ne_nil
  rw [written] at read ⊢
  obtain ⟨digit, valued, read⟩ := readDigits_cons_iff.mp read
  have first : byteWhere (fun byte => (hexByte? byte).isSome)
      (numeralBytes (c :: digits) ++ lineBreak ++ rest) =
      .complete (UInt8.ofNat c.toNat) (numeralBytes digits ++ lineBreak ++ rest) := by
    simp [numeralBytes, byteWhere, hexByte?_digit valued]
  have more : moreSizeDigits digit (numeralBytes digits ++ lineBreak ++ rest) =
      .complete size (lineBreak ++ rest) := by
    rw [List.append_assoc]
    exact moreSizeDigits_written (by simpa using read) small (by decide) (lineFeed :: rest)
  rw [sizeLine, Reader.bind_complete first, hexByte?_digit valued, Option.getD_some,
    Reader.bind_complete more]
  rfl

/-- A body in chunks is read however it was cut. -/
theorem chunked_written {parts : List (List UInt8)}
    (sized : ∀ part ∈ parts, part ≠ [] ∧ part.length < sizeBound) (spent : Nat) :
    Chunked spent (writeChunks parts) parts.flatten [] := by
  induction parts with
  | nil =>
      have size : sizeLine spent (writeChunks []) = .complete (0, spent) lineBreak :=
        sizeLine_written (by decide) spent lineBreak
      exact .last size (by decide)
  | cons part parts ih =>
      obtain ⟨⟨filled, small⟩, others⟩ := List.forall_mem_cons.mp sized
      have size : sizeLine spent (writeChunks (part :: parts)) =
          .complete (part.length, spent) (part ++ lineBreak ++ writeChunks parts) := by
        have line := sizeLine_written small spent (part ++ lineBreak ++ writeChunks parts)
        simpa [writeChunks, writeChunk] using line
      exact .filled size filled (ih others)

/-! ## Heads -/

theorem trimEndBlank_of_plain {value : List UInt8}
    (plain : ∀ byte ∈ value, isBlankByte byte = false) : trimEndBlank value = value := by
  rw [trimEndBlank, dropWhile_of_free fun byte member => plain byte (List.mem_reverse.mp member),
    List.reverse_reverse]

/-- A field whose value holds no blank is read as it was written. -/
theorem field_written {name value : List UInt8} (named : name ≠ [])
    (token : ∀ byte ∈ name, isTokenByte byte = true)
    (plain : ∀ byte ∈ value, isValueByte byte = true ∧ isBlankByte byte = false)
    (rest : List UInt8) :
    field (name ++ ascii ": " ++ value ++ lineBreak ++ rest) =
      .complete { name := name.map toLowerByte, value } rest := by
  obtain ⟨first, more, rfl⟩ := List.exists_cons_of_ne_nil named
  obtain ⟨start, others⟩ := List.forall_mem_cons.mp token
  let behind := value ++ lineBreak ++ rest
  have initial : byteWhere isTokenByte
      (first :: more ++ ascii ": " ++ value ++ lineBreak ++ rest) =
      .complete first (more ++ 0x3A :: 0x20 :: behind) := by
    simp [byteWhere, start, behind, ascii]
  have letters : spanWhere isTokenByte (more ++ 0x3A :: 0x20 :: behind) =
      .complete more (0x3A :: 0x20 :: behind) := spanWhere_append others (by decide)
  have colon : expect [0x3A] (0x3A :: 0x20 :: behind) = .complete () (0x20 :: behind) :=
    expect_append [0x3A] _
  have blank : spanWhere isBlankByte (0x20 :: behind) = .complete [0x20] behind := by
    refine Reader.spanWhere_eq_complete_iff.mpr ⟨rfl, List.forall_mem_singleton.mpr rfl, ?_⟩
    cases value with
    | nil => exact ⟨_, _, rfl, by decide⟩
    | cons byte others => exact ⟨_, _, rfl, (plain byte List.mem_cons_self).2⟩
  have content : spanWhere isValueByte behind = .complete value (lineBreak ++ rest) := by
    refine Reader.spanWhere_eq_complete_iff.mpr ⟨List.append_assoc .., ?_, _, _, rfl, by decide⟩
    exact fun byte member => (plain byte member).1
  rw [field, Reader.bind_complete initial, Reader.bind_complete letters,
    Reader.bind_complete colon, Reader.bind_complete blank, Reader.bind_complete content,
    trimEndBlank_of_plain fun byte member => (plain byte member).2]
  rfl

theorem decimal_of_three_digits {n : Nat} (least : 100 ≤ n) (small : n < 1000) :
    decimal n = [n / 100, n / 10 % 10, n % 10].map Nat.digitChar := by
  have tens : n / 10 / 10 = n / 100 := Nat.div_div_eq_div_mul n 10 10
  rw [decimal, Nat.toDigits_eq_if (by decide), if_neg (by omega),
    Nat.toDigits_eq_if (by decide), if_neg (by omega), tens,
    Nat.toDigits_eq_if (by decide), if_pos (by omega)]
  rfl

/-- Statuses of three digits are read as they were written. -/
theorem statusCode_written {status : Nat} (least : 100 ≤ status) (small : status < 1000)
    (rest : List UInt8) :
    statusCode (numeralBytes (decimal status) ++ rest) = .complete status rest := by
  have spelt : ∀ digit < 10, isDigit (UInt8.ofNat (Nat.digitChar digit).toNat) = true ∧
      (UInt8.ofNat (Nat.digitChar digit).toNat).toNat - 0x30 = digit := by decide
  have read {digit : Nat} (within : digit < 10) (behind : List UInt8) :
      byteWhere isDigit (UInt8.ofNat (Nat.digitChar digit).toNat :: behind) =
        .complete (UInt8.ofNat (Nat.digitChar digit).toNat) behind := by
    rw [byteWhere, if_pos (spelt digit within).1]
  have hundreds : status / 100 < 10 := by omega
  have tens : status / 10 % 10 < 10 := by omega
  have ones : status % 10 < 10 := by omega
  rw [decimal_of_three_digits least small, statusCode]
  simp only [numeralBytes, List.map_cons, List.map_nil, List.cons_append, List.nil_append]
  rw [Reader.bind_complete (read hundreds _), Reader.bind_complete (read tens _),
    Reader.bind_complete (read ones _), (spelt _ hundreds).2, (spelt _ tens).2, (spelt _ ones).2]
  have sum : status / 100 * 100 + status / 10 % 10 * 10 + status % 10 = status := by omega
  rw [sum]
  rfl

theorem length_writeStatusLine {status : Nat} (least : 100 ≤ status) (small : status < 1000) :
    (writeStatusLine status).length = 15 := by
  rw [writeStatusLine, decimal_of_three_digits least small]
  rfl

/-- A status line is read in front of the fields that follow it, if no limit is passed. -/
theorem head_written {status : Nat} (least : 100 ≤ status) (small : status < 1000)
    {bytes : List UInt8} {fields : List Field}
    (read : fieldsUpTo maxFields bytes = .complete fields [])
    (short : bytes.length ≤ maxHeadLength - 15)
    (named : ∀ field ∈ fields, field.name.length ≤ maxNameLength) :
    head (writeStatusLine status ++ bytes) =
      .complete { version := .http11, status, fields } [] := by
  have protocol : version (ascii "HTTP/1.1") = .complete .http11 [] := by decide +kernel
  have bare : reason (ascii " " ++ lineBreak) = .complete () [] := by decide
  have front : ascii "HTTP/1.1 " = ascii "HTTP/1.1" ++ [0x20] := by decide +kernel
  let line := ascii " " ++ lineBreak ++ bytes
  have begins : writeStatusLine status ++ bytes =
      ascii "HTTP/1.1" ++ ([0x20] ++ (numeralBytes (decimal status) ++ line)) := by
    simp [writeStatusLine, front, line]
  have spoken : version (ascii "HTTP/1.1" ++ ([0x20] ++ (numeralBytes (decimal status) ++ line))) =
      .complete .http11 ([0x20] ++ (numeralBytes (decimal status) ++ line)) :=
    Reader.Steady.version.grows protocol _
  have reasoned : reason line = .complete () bytes := Reader.Steady.reason.grows bare bytes
  have skipped : skipEmptyLines (writeStatusLine status ++ bytes) =
      .complete () (writeStatusLine status ++ bytes) := by
    rw [begins]
    rfl
  have limited : Reader.ensure (decide (minStatus ≤ status) &&
      fields.all (·.name.length ≤ maxNameLength)) [] = .complete () [] := by
    have holds : (decide (minStatus ≤ status) &&
        fields.all (·.name.length ≤ maxNameLength)) = true :=
      Bool.and_eq_true_iff.mpr ⟨decide_eq_true least, by simpa using named⟩
    rw [holds]
    rfl
  have within : (writeStatusLine status ++ bytes).length ≤ maxHeadLength := by
    rw [List.length_append, length_writeStatusLine least small]
    have room : 15 ≤ maxHeadLength := by decide
    omega
  refine Reader.within_complete within ?_
  rw [headLines, Reader.bind_complete skipped, begins, Reader.bind_complete spoken,
    Reader.bind_complete (expect_append [0x20] _),
    Reader.bind_complete (statusCode_written least small line), Reader.bind_complete reasoned,
    Reader.bind_complete read, Reader.bind_complete limited]
  rfl

/-- One field and the end of a head are read as they were written. -/
theorem fieldsUpTo_written {name : String} {value : List UInt8} (named : ascii name ≠ [])
    (token : ∀ byte ∈ ascii name, isTokenByte byte = true)
    (plain : ∀ byte ∈ value, isValueByte byte = true ∧ isBlankByte byte = false) :
    fieldsUpTo maxFields (writeField name value ++ lineBreak) =
      .complete [{ name := (ascii name).map toLowerByte, value }] [] := by
  obtain ⟨first, more, spelt⟩ := List.exists_cons_of_ne_nil named
  have start : ¬ (first == carriageReturn || first == lineFeed) = true := by
    have isToken := token first (spelt ▸ List.mem_cons_self)
    rw [Bool.or_eq_true, beq_iff_eq, beq_iff_eq]
    rintro (rfl | rfl) <;> exact absurd isToken (by decide)
  have read := field_written named token plain lineBreak
  have last : fieldsUpTo 99 lineBreak = .complete [] [] := rfl
  have limit : maxFields = 99 + 1 := rfl
  rw [writeField, limit]
  simp only [spelt, List.cons_append] at read ⊢
  rw [fieldsUpTo, if_neg start, Reader.bind_complete read, Reader.bind_complete last]
  rfl

/-! ## Lines -/

/-- The bytes are lines, each with a carriage return and a line feed behind it. -/
def InLines (bytes : List UInt8) : Prop :=
  ∃ lines : List (List UInt8), (∀ line ∈ lines, lineFeed ∉ line) ∧
    lines.flatMap (· ++ lineBreak) = bytes

theorem inLines_line {line : List UInt8} (free : lineFeed ∉ line) : InLines (line ++ lineBreak) :=
  ⟨[line], List.forall_mem_singleton.mpr free, List.flatMap_singleton ..⟩

theorem InLines.append {front back : List UInt8} (first : InLines front) (second : InLines back) :
    InLines (front ++ back) := by
  obtain ⟨lines, free, rfl⟩ := first
  obtain ⟨others, freeToo, rfl⟩ := second
  refine ⟨lines ++ others, fun line member => ?_, List.flatMap_append⟩
  exact (List.mem_append.mp member).elim (free line) (freeToo line)

theorem lineFeed_not_mem_decimal (n : Nat) : lineFeed ∉ numeralBytes (decimal n) :=
  fun member => mem_numeralBytes (· ≠ lineFeed) (forall_mem_decimal _ (by decide) n) _ member rfl

theorem inLines_writeStatusLine (status : Nat) : InLines (writeStatusLine status) := by
  refine inLines_line ?_
  simp only [List.mem_append, not_or]
  exact ⟨⟨by decide, lineFeed_not_mem_decimal status⟩, by decide⟩

theorem inLines_writeField {name : String} {value : List UInt8} (free : lineFeed ∉ ascii name)
    (freeToo : lineFeed ∉ value) : InLines (writeField name value) := by
  refine inLines_line ?_
  simp only [List.mem_append, not_or]
  exact ⟨⟨free, by decide⟩, freeToo⟩

/-! ## Framing -/

/-- The bytes are a head with a status that announces how the body is framed, and no more.
Readers put up with bare line feeds, but these are not the format: who looks at a head in
pieces may pass over its end behind one. -/
def Announces (status : Nat) (framing : Framing) (bytes : List UInt8) : Prop :=
  InLines bytes ∧
    ∃ head, Headed bytes head framing [] ∧ head.version = .http11 ∧ head.status = status

/-- A status that is final and does not say that there is no body. -/
structure IsBodied (status : Nat) : Prop where
  final : 200 ≤ status
  small : status < 1000
  filled : status ≠ 204 ∧ status ≠ 304

theorem framing?_of_isBodied {head : Head} (bodied : IsBodied head.status) :
    head.framing? =
      match valuesOf "transfer-encoding" head.fields, valuesOf "content-length" head.fields with
      | [], [] => some .untilClose
      | [], lengths => (agreedLength? lengths).map .sized
      | codings, _ =>
        if head.version = .http10 then none
        else if endsInChunks (codings.map lowerValue) then some .chunked
        else some .untilClose := by
  have := bodied.final
  have := bodied.filled
  have present : (head.status == 101 || head.status == 204 || head.status == 304) = false := by
    simp only [Bool.or_eq_false_iff, beq_eq_false_iff_ne]
    omega
  rw [Head.framing?, present]
  rfl

/-- A written head announces what its fields say. -/
theorem announces_written {status : Nat} (bodied : IsBodied status) {bytes : List UInt8}
    {fields : List Field} {framing : Framing}
    (read : fieldsUpTo maxFields bytes = .complete fields []) (lines : InLines bytes)
    (short : bytes.length ≤ maxHeadLength - 15)
    (named : ∀ field ∈ fields, field.name.length ≤ maxNameLength)
    (framed : Head.framing? { version := .http11, status, fields } = some framing) :
    Announces status framing (writeStatusLine status ++ bytes) := by
  have final : (200 : Nat) ≤ status := bodied.final
  have stays : Head.isInterim { version := .http11, status, fields } = false := by
    simp only [Head.isInterim, Bool.and_eq_false_iff, decide_eq_false_iff_not]
    exact .inl (by omega)
  have headed : Headed (writeStatusLine status ++ bytes) _ framing [] :=
    ⟨.here (head_written (by omega) bodied.small read short named) stays, framed⟩
  exact ⟨(inLines_writeStatusLine status).append lines, _, headed, rfl, rfl⟩

theorem valueText?_decimal (n : Nat) :
    valueText? (numeralBytes (decimal n)) = some (decimal n) := by
  have low : (numeralBytes (decimal n)).all (· < 0x7F) = true := by
    rw [List.all_eq_true]
    exact mem_numeralBytes _ (forall_mem_decimal _ (by decide) n)
  have same : (numeralBytes (decimal n)).map (fun byte => Char.ofNat byte.toNat) = decimal n := by
    rw [numeralBytes, List.map_map]
    exact (List.map_congr_left (forall_mem_decimal _ (by decide) n)).trans (List.map_id _)
  rw [valueText?, low, same]
  rfl

/-- A number between commas is a numeral. -/
theorem numerals?_decimal (n : Nat) : numerals? (numeralBytes (decimal n)) = some [n] := by
  have apart : ∀ c ∈ decimal n, (c == ',') = false := forall_mem_decimal _ (by decide) n
  have dense : ∀ c ∈ decimal n, isWhiteSpace c = false := forall_mem_decimal _ (by decide) n
  have trimmed : trimBoth isWhiteSpace (decimal n) = decimal n := by
    rw [trimBoth, dropWhile_of_free dense,
      dropWhile_of_free fun c member => dense c (List.mem_reverse.mp member), List.reverse_reverse]
  rw [numerals?, valueText?_decimal, Option.bind_eq_bind, Option.bind_some, listItems,
    splitOn_of_free apart, List.map_singleton, trimmed]
  simp

theorem agreedLength?_decimal {length : Nat} (possible : length ≤ maxBodyLength) :
    agreedLength? [numeralBytes (decimal length)] = some length := by
  simp [agreedLength?, numerals?_decimal, possible]

/-- The field of a length is far shorter than a head may be. -/
theorem length_sizeField_le {length : Nat} (possible : length ≤ maxBodyLength) :
    (writeField "content-length" (numeralBytes (decimal length)) ++ lineBreak).length ≤ 40 := by
  have digits : (decimal length).length ≤ 20 := by
    rw [decimal, Nat.length_toDigits_le_iff (by decide) (by decide)]
    exact Nat.lt_of_le_of_lt possible (by decide)
  have name : (ascii "content-length").length = 14 := by decide
  have colon : (ascii ": ").length = 2 := by decide
  have ends : lineBreak.length = 2 := rfl
  simp only [writeField, numeralBytes, List.length_append, List.length_map]
  omega

theorem announces_sizedHead {status length : Nat} (bodied : IsBodied status)
    (possible : length ≤ maxBodyLength) :
    Announces status (.sized length) (sizedHead status length) := by
  have plain : ∀ byte ∈ numeralBytes (decimal length),
      isValueByte byte = true ∧ isBlankByte byte = false :=
    mem_numeralBytes _ (forall_mem_decimal _ (by decide) length)
  let fields : List Field :=
    [{ name := ascii "content-length", value := numeralBytes (decimal length) }]
  have read : fieldsUpTo maxFields
      (writeField "content-length" (numeralBytes (decimal length)) ++ lineBreak) =
      .complete fields [] :=
    fieldsUpTo_written (by decide) (List.all_eq_true.mp (by decide)) plain
  have codings : valuesOf "transfer-encoding" fields = [] := rfl
  have lengths : valuesOf "content-length" fields = [numeralBytes (decimal length)] := rfl
  have named : (ascii "content-length").length ≤ maxNameLength := by decide
  have lines : InLines (writeField "content-length" (numeralBytes (decimal length)) ++ lineBreak) :=
    (inLines_writeField (by decide) (lineFeed_not_mem_decimal length)).append
      (inLines_line List.not_mem_nil)
  have short := Nat.le_trans (length_sizeField_le possible) (by decide : 40 ≤ maxHeadLength - 15)
  rw [sizedHead, List.append_assoc]
  refine announces_written bodied read lines short (List.forall_mem_singleton.mpr named) ?_
  rw [framing?_of_isBodied bodied, codings, lengths]
  simp only [agreedLength?_decimal possible, Option.map_some]

theorem announces_chunkedHead {status : Nat} (bodied : IsBodied status) :
    Announces status .chunked (chunkedHead status) := by
  have token : ∀ byte ∈ ascii "transfer-encoding", isTokenByte byte = true :=
    List.all_eq_true.mp (by decide)
  have plain : ∀ byte ∈ ascii "chunked", isValueByte byte = true ∧ isBlankByte byte = false :=
    List.all_iff_forall_prop.mp (by rfl)
  rw [chunkedHead, List.append_assoc]
  have lines : InLines (writeField "transfer-encoding" (ascii "chunked") ++ lineBreak) :=
    (inLines_writeField (by decide) (by decide)).append (inLines_line List.not_mem_nil)
  refine announces_written bodied (fieldsUpTo_written (by decide) token plain) lines (by decide)
    (List.forall_mem_singleton.mpr (by decide)) ?_
  rw [framing?_of_isBodied bodied]
  rfl

/-- A head without fields leaves the end of the body to the end of the connection. -/
theorem announces_bareHead {status : Nat} (bodied : IsBodied status) :
    Announces status .untilClose (writeStatusLine status ++ lineBreak) := by
  have none : fieldsUpTo maxFields lineBreak = .complete [] [] := rfl
  refine announces_written bodied none (inLines_line List.not_mem_nil) (by decide)
    (List.forall_mem_nil _) ?_
  rw [framing?_of_isBodied bodied]
  rfl

end PanelBoard.Http
