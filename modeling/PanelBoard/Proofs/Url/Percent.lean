import Mathlib.Data.Bool.AllAny
import Mathlib.Data.List.Flatten
import PanelBoard.Proofs.Text.Ascii
import PanelBoard.Url.Percent

/-!
# Decoding what was encoded

A byte is spelt by a character that stands for itself or by a percent sign and
two digits. Decoding a spelling gives the bytes, whichever bytes were encoded
and in whichever case the digits are written.
-/

namespace PanelBoard.Url.Percent

open PanelBoard.Text

/-- A byte that is no percent sign stands for itself. -/
theorem decodeBytes_cons_of_ne {b : UInt8} (plain : b.toNat ≠ 0x25) (rest : List UInt8) :
    decodeBytes (b :: rest) = b :: decodeBytes rest := by
  match rest with
  | [] | [_] => rfl
  | high :: low :: tail => rw [decodeBytes, if_neg plain]

/-- A character in ASCII other than the percent sign stands for itself. -/
theorem decode_cons_of_ne {c : Char} (ascii : isAsciiChar c = true) (plain : c ≠ '%')
    (rest : List Char) : decode (c :: rest) = UInt8.ofNat c.toNat :: decode rest := by
  have other : (UInt8.ofNat c.toNat).toNat ≠ 0x25 := by
    intro same
    apply plain
    rw [← ofNat_byte ascii, same]
  rw [decode, Utf8.encode_cons, utf8EncodeChar_of_isAsciiChar ascii, List.singleton_append,
    decodeBytes_cons_of_ne other, decode]

/-- A percent sign and two digits stand for one byte, whatever follows. -/
theorem decodeBytes_triple {high low : Char} {first second : Nat}
    (h : hexValue? high = some first) (l : hexValue? low = some second) (rest : List UInt8) :
    decodeBytes (Utf8.encode ['%', high, low] ++ rest) =
      UInt8.ofNat (first * 16 + second) :: decodeBytes rest := by
  have highAscii := (hexValue?_bounds h).2
  have lowAscii := (hexValue?_bounds l).2
  have mark : isAsciiChar '%' = true := rfl
  have bytes : Utf8.encode ['%', high, low] =
      [UInt8.ofNat '%'.toNat, UInt8.ofNat high.toNat, UInt8.ofNat low.toNat] := by
    simp [Utf8.encode, utf8EncodeChar_of_isAsciiChar highAscii,
      utf8EncodeChar_of_isAsciiChar lowAscii, utf8EncodeChar_of_isAsciiChar mark]
  simp only [bytes, List.cons_append, List.nil_append]
  rw [decodeBytes, if_pos (by decide), ofNat_byte highAscii, ofNat_byte lowAscii, h, l]

theorem decode_triple {high low : Char} {first second : Nat} (h : hexValue? high = some first)
    (l : hexValue? low = some second) (rest : List Char) :
    decode ('%' :: high :: low :: rest) = UInt8.ofNat (first * 16 + second) :: decode rest := by
  have split : '%' :: high :: low :: rest = ['%', high, low] ++ rest := rfl
  rw [decode, split, Utf8.encode_append, decodeBytes_triple h l, decode]

/-! ## Spellings -/

/-- A character that stands for itself wherever it is put: a letter, a digit or
one of four marks. -/
def isUnreserved (c : Char) : Bool :=
  c.isAlphanum || ['-', '_', '.', '~'].contains c

/-- How bytes are spelt. The byte of a reserved character is encoded, and any other
may be. -/
inductive Spells : List UInt8 → List Char → Prop where
  | nil : Spells [] []
  | plain {c : Char} {bytes : List UInt8} {spelling : List Char}
      (unreserved : isUnreserved c = true) (rest : Spells bytes spelling) :
      Spells (UInt8.ofNat c.toNat :: bytes) (c :: spelling)
  | coded {b : UInt8} {high low : Char} {bytes : List UInt8} {spelling : List Char}
      (first : hexValue? high = some (b.toNat / 16)) (second : hexValue? low = some (b.toNat % 16))
      (rest : Spells bytes spelling) : Spells (b :: bytes) ('%' :: high :: low :: spelling)

theorem isAsciiChar_of_isUnreserved {c : Char} (unreserved : isUnreserved c = true) :
    isAsciiChar c = true := by
  rw [isUnreserved, Bool.or_eq_true] at unreserved
  rcases unreserved with alphanumeric | mark
  · exact isAsciiChar_of_isAlphanum alphanumeric
  · have marks : ∀ c ∈ ['-', '_', '.', '~'], isAsciiChar c = true :=
      List.all_iff_forall_prop.mp (by decide)
    exact marks c (List.contains_iff_mem.mp mark)

/-- Decoding a spelling gives the bytes that were spelt. -/
theorem Spells.decode {bytes : List UInt8} {spelling : List Char} (spells : Spells bytes spelling) :
    Percent.decode spelling = bytes := by
  induction spells with
  | nil => rfl
  | plain unreserved rest ih =>
      have ascii := isAsciiChar_of_isUnreserved unreserved
      rw [decode_cons_of_ne ascii _ _, ih]
      rintro rfl
      cases unreserved
  | @coded b high low bytes spelling first second rest ih =>
      rw [decode_triple first second, ih, Nat.mul_comm, Nat.div_add_mod, UInt8.ofNat_toNat]

/-- A text is spelt by letters, digits, the four marks and percent signs only. -/
theorem Spells.chars {bytes : List UInt8} {spelling : List Char} (spells : Spells bytes spelling) :
    ∀ c ∈ spelling, isUnreserved c = true ∨ c = '%' := by
  have digit {c : Char} {value : Nat} (valued : hexValue? c = some value) :
      isUnreserved c = true := by
    have checked : ∀ n < 0x80, (hexValue? (Char.ofNat n)).isSome = true →
        isUnreserved (Char.ofNat n) = true := by decide
    refine of_isAsciiChar (fun c => (hexValue? c).isSome = true → isUnreserved c = true)
      checked (hexValue?_bounds valued).2 ?_
    rw [valued]
    rfl
  induction spells with
  | nil => nofun
  | plain unreserved rest ih => exact List.forall_mem_cons.mpr ⟨.inl unreserved, ih⟩
  | coded first second rest ih =>
      refine List.forall_mem_cons.mpr ⟨.inr rfl, List.forall_mem_cons.mpr ⟨.inl (digit first), ?_⟩⟩
      exact List.forall_mem_cons.mpr ⟨.inl (digit second), ih⟩

theorem Spells.ne_nil {bytes : List UInt8} {spelling : List Char} (spells : Spells bytes spelling)
    (some : bytes ≠ []) : spelling ≠ [] := by
  cases spells with
  | nil => exact absurd rfl some
  | plain | coded => exact List.cons_ne_nil _ _

/-! ## Encoded text -/

/-- Is the text in ASCII and without characters of the set? -/
def Encoded (mustEncode : Char → Bool) (cs : List Char) : Prop :=
  ∀ c ∈ cs, isAsciiChar c = true ∧ mustEncode c = false

/-- What holds of every character in ASCII outside the set holds of encoded text. -/
theorem Encoded.all {mustEncode : Char → Bool} {property : Char → Prop}
    (checked : ∀ n < 0x80, mustEncode (Char.ofNat n) = false → property (Char.ofNat n))
    {cs : List Char} (encoded : Encoded mustEncode cs) : ∀ c ∈ cs, property c :=
  fun c member => of_isAsciiChar (fun c => mustEncode c = false → property c) checked
    (encoded c member).1 (encoded c member).2

/-- The characters that spell a byte in the form that encoding writes. -/
def tripleChars : List Char :=
  '%' :: (List.range 16).map upperHexDigit

theorem encodeByte_subset (b : UInt8) : ∀ c ∈ encodeByte b, c ∈ tripleChars := by
  have digit {n : Nat} (small : n < 16) : upperHexDigit n ∈ tripleChars :=
    List.mem_cons_of_mem _ (List.mem_map_of_mem (List.mem_range.mpr small))
  have byte := b.toNat_lt
  intro c member
  simp only [encodeByte, List.mem_cons, List.not_mem_nil, or_false] at member
  rcases member with rfl | rfl | rfl
  · exact List.mem_cons_self
  · exact digit (by omega)
  · exact digit (by omega)

/-- What encoding writes is encoded, if its own characters are none of those that
must be. -/
theorem encoded_encode {mustEncode : Char → Bool}
    (keeps : ∀ c ∈ tripleChars, mustEncode c = false) (cs : List Char) :
    Encoded mustEncode (encode mustEncode cs) := by
  have ascii : ∀ c ∈ tripleChars, isAsciiChar c = true :=
    List.all_iff_forall_prop.mp (by decide)
  intro c member
  obtain ⟨source, -, written⟩ := List.mem_flatMap.mp member
  unfold encodeChar at written
  split at written
  next =>
    obtain ⟨b, -, within⟩ := List.mem_flatMap.mp written
    have own := encodeByte_subset b c within
    exact ⟨ascii c own, keeps c own⟩
  next plain =>
    obtain rfl := List.mem_singleton.mp written
    simpa [isAsciiChar] using plain

/-- Encoding brings in no characters but those of triples. -/
theorem mem_or_mem_tripleChars {mustEncode : Char → Bool} {cs : List Char} {c : Char}
    (member : c ∈ encode mustEncode cs) : c ∈ cs ∨ c ∈ tripleChars := by
  obtain ⟨source, own, written⟩ := List.mem_flatMap.mp member
  unfold encodeChar at written
  split at written
  next =>
    obtain ⟨b, -, within⟩ := List.mem_flatMap.mp written
    exact .inr (encodeByte_subset b c within)
  next =>
    obtain rfl := List.mem_singleton.mp written
    exact .inl own

theorem encoded_encode_inPath (cs : List Char) : Encoded inPath (encode inPath cs) :=
  encoded_encode (List.all_iff_forall_prop.mp (by decide)) cs

theorem encoded_encode_inUserinfo (cs : List Char) : Encoded inUserinfo (encode inUserinfo cs) :=
  encoded_encode (List.all_iff_forall_prop.mp (by decide)) cs

theorem encoded_encode_inSpecialQuery (cs : List Char) :
    Encoded inSpecialQuery (encode inSpecialQuery cs) :=
  encoded_encode (List.all_iff_forall_prop.mp (by decide)) cs

/-! ## Reading encoded text -/

/-- Is the byte that of a hexadecimal digit? -/
def isHexByte (b : UInt8) : Bool :=
  (hexValue? (Char.ofNat b.toNat)).isSome

/-- Do bytes begin with two digits, so that a percent sign in front begins a triple? -/
def BeginsWithDigits (bs : List UInt8) : Prop :=
  ∃ high low tail, bs = high :: low :: tail ∧ isHexByte high = true ∧ isHexByte low = true

/-- A byte with no digits behind it stands for itself. -/
theorem decodeBytes_cons_of_not_digits (b : UInt8) {rest : List UInt8}
    (alone : ¬ BeginsWithDigits rest) : decodeBytes (b :: rest) = b :: decodeBytes rest := by
  match rest with
  | [] | [_] => rfl
  | high :: low :: tail =>
      rw [decodeBytes]
      split
      next =>
        split
        next h l => exact absurd ⟨high, low, tail, rfl, by simp [isHexByte, h, l]⟩ alone
        next => rfl
      next => rfl

/-- A byte as encoding leaves it: as it is, or as three. -/
def spellByte (mustEncode : Char → Bool) (b : UInt8) : List UInt8 :=
  if 0x80 ≤ b.toNat || mustEncode (Char.ofNat b.toNat) then Utf8.encode (encodeByte b) else [b]

/-- Encoding works byte by byte. -/
theorem bytes_encode (mustEncode : Char → Bool) (cs : List Char) :
    Utf8.encode (encode mustEncode cs) = (Utf8.encode cs).flatMap (spellByte mustEncode) := by
  have bytewise (bs : List UInt8) :
      Utf8.encode (bs.flatMap encodeByte) = bs.flatMap fun b => Utf8.encode (encodeByte b) := by
    induction bs with
    | nil => rfl
    | cons b bs ih => rw [List.flatMap_cons, List.flatMap_cons, Utf8.encode_append, ih]
  have one (c : Char) : Utf8.encode (encodeChar mustEncode c) =
      (String.utf8EncodeChar c).flatMap (spellByte mustEncode) := by
    unfold encodeChar
    cases ascii : isAsciiChar c with
    | true =>
        have low : c.toNat < 0x80 := of_decide_eq_true ascii
        have spelt : spellByte mustEncode (UInt8.ofNat c.toNat) =
            if mustEncode c then Utf8.encode (encodeByte (UInt8.ofNat c.toNat))
            else [UInt8.ofNat c.toNat] := by
          rw [spellByte, ofNat_byte ascii, UInt8.toNat_ofNat_of_lt' (Nat.lt_trans low (by decide))]
          simp [Nat.not_le.mpr low]
        simp only [utf8EncodeChar_of_isAsciiChar ascii, List.flatMap_cons, List.flatMap_nil, spelt,
          List.append_nil]
        cases mustEncode c
        · simp [Nat.not_le.mpr low, Utf8.encode, utf8EncodeChar_of_isAsciiChar ascii]
        · simp
    | false =>
        have high : 0x80 ≤ c.toNat := by simpa [isAsciiChar] using ascii
        have same : (String.utf8EncodeChar c).map (fun b => Utf8.encode (encodeByte b)) =
            (String.utf8EncodeChar c).map (spellByte mustEncode) := by
          refine List.map_congr_left fun b member => ?_
          rw [spellByte, if_pos (by simp [high_utf8EncodeChar ascii b member])]
        rw [if_pos (by simp [high]), bytewise, List.flatMap_def, List.flatMap_def, same]
  induction cs with
  | nil => rfl
  | cons c cs ih =>
      rw [encode, List.flatMap_cons, Utf8.encode_append, one, Utf8.encode_cons, List.flatMap_append,
        ← ih, encode]

/-- Does the set leave out what a triple is made of? -/
structure KeepsTriples (mustEncode : Char → Bool) : Prop where
  mark : mustEncode '%' = false
  digit : ∀ c, (hexValue? c).isSome = true → mustEncode c = false

section Reading

variable {mustEncode : Char → Bool}

/-- A byte is left as it is, or it is no part of a triple and becomes one. -/
theorem spellByte_cases (keeps : KeepsTriples mustEncode) (b : UInt8) :
    spellByte mustEncode b = [b] ∨
      b.toNat ≠ 0x25 ∧ isHexByte b = false ∧
        spellByte mustEncode b = Utf8.encode (encodeByte b) := by
  unfold spellByte
  split
  next coded =>
    refine .inr ⟨?_, ?_, rfl⟩
    · intro mark
      have sign : Char.ofNat b.toNat = '%' := by rw [mark]
      rw [sign, keeps.mark] at coded
      simp [mark] at coded
    · cases digit : isHexByte b with
      | false => rfl
      | true =>
          obtain ⟨value, valued⟩ := Option.isSome_iff_exists.mp digit
          have ascii := (hexValue?_bounds valued).2
          have low : (Char.ofNat b.toNat).toNat < 0x80 := of_decide_eq_true ascii
          have code : (Char.ofNat b.toNat).toNat = b.toNat :=
            Utf8.toNat_ofNat (.inl (Nat.lt_trans b.toNat_lt (by decide)))
          rw [keeps.digit _ digit, Bool.or_false, decide_eq_true_eq] at coded
          omega
  next => exact .inl rfl

theorem decodeBytes_encodeByte (b : UInt8) (rest : List UInt8) :
    decodeBytes (Utf8.encode (encodeByte b) ++ rest) = b :: decodeBytes rest := by
  have values : ∀ digit < 16, hexValue? (upperHexDigit digit) = some digit := by decide
  have byte := b.toNat_lt
  have first := values (b.toNat / 16) (by omega)
  have second := values (b.toNat % 16) (by omega)
  rw [encodeByte, decodeBytes_triple first second, Nat.mul_comm, Nat.div_add_mod,
    UInt8.ofNat_toNat]

/-- A triple begins with a percent sign. -/
theorem encode_encodeByte (b : UInt8) :
    ∃ digits, Utf8.encode (encodeByte b) = UInt8.ofNat '%'.toNat :: digits := by
  have mark : String.utf8EncodeChar '%' = [UInt8.ofNat '%'.toNat] :=
    utf8EncodeChar_of_isAsciiChar rfl
  exact ⟨_, by rw [encodeByte, Utf8.encode_cons, mark, List.singleton_append]⟩

/-- Encoding never puts two digits behind a percent sign that had none. -/
theorem beginsWithDigits_of_flatMap (keeps : KeepsTriples mustEncode) {bs : List UInt8}
    (digits : BeginsWithDigits (bs.flatMap (spellByte mustEncode))) : BeginsWithDigits bs := by
  cases bs with
  | nil =>
      obtain ⟨high, low, tail, same, -⟩ := digits
      cases same
  | cons b bs =>
      rw [List.flatMap_cons] at digits
      rcases spellByte_cases keeps b with kept | ⟨-, -, coded⟩
      · rw [kept] at digits
        cases bs with
        | nil =>
            obtain ⟨high, low, tail, same, -⟩ := digits
            cases same
        | cons c bs =>
            rw [List.flatMap_cons] at digits
            rcases spellByte_cases keeps c with also | ⟨-, -, coded⟩
            · rw [also] at digits
              obtain ⟨high, low, tail, same, both⟩ := digits
              cases same
              exact ⟨b, c, bs, rfl, both⟩
            · obtain ⟨high, low, tail, same, -, second⟩ := digits
              obtain ⟨others, front⟩ := encode_encodeByte c
              rw [coded, front] at same
              cases same
              cases second
      · obtain ⟨high, low, tail, same, first, -⟩ := digits
        obtain ⟨others, front⟩ := encode_encodeByte b
        rw [coded, front] at same
        obtain ⟨rfl, -⟩ := List.cons.inj same
        cases first

theorem spellByte_of_isHexByte (keeps : KeepsTriples mustEncode) {b : UInt8}
    (digit : isHexByte b = true) : spellByte mustEncode b = [b] := by
  rcases spellByte_cases keeps b with kept | ⟨-, other, -⟩
  · exact kept
  · rw [digit] at other
    cases other

/-- Encoding byte by byte changes nothing about what is decoded. -/
theorem decodeBytes_flatMap (keeps : KeepsTriples mustEncode) (bs : List UInt8) :
    decodeBytes (bs.flatMap (spellByte mustEncode)) = decodeBytes bs := by
  induction length : bs.length using Nat.strongRecOn generalizing bs with
  | ind n ih =>
      cases bs with
      | nil => rfl
      | cons b rest =>
          have shorter := ih rest.length (length ▸ Nat.lt_succ_self _) rest rfl
          rw [List.flatMap_cons]
          rcases spellByte_cases keeps b with kept | ⟨plain, -, coded⟩
          · rw [kept, List.singleton_append]
            by_cases digits : BeginsWithDigits rest
            · obtain ⟨high, low, tail, rfl, first, second⟩ := digits
              have last := ih tail.length
                (by simp only [List.length_cons] at length; omega) tail rfl
              obtain ⟨h, high_⟩ := Option.isSome_iff_exists.mp first
              obtain ⟨l, low_⟩ := Option.isSome_iff_exists.mp second
              rw [List.flatMap_cons, List.flatMap_cons, spellByte_of_isHexByte keeps first,
                spellByte_of_isHexByte keeps second] at shorter ⊢
              by_cases mark : b.toNat = 0x25
              · simp only [List.singleton_append]
                rw [decodeBytes, decodeBytes, if_pos mark, if_pos mark]
                simp only [high_, low_, last]
              · rw [decodeBytes_cons_of_ne mark, decodeBytes_cons_of_ne mark, shorter]
            · have alone := mt (beginsWithDigits_of_flatMap keeps) digits
              rw [decodeBytes_cons_of_not_digits b alone, decodeBytes_cons_of_not_digits b digits,
                shorter]
          · rw [coded, decodeBytes_encodeByte, decodeBytes_cons_of_ne plain, shorter]

/-- Decoding does not see whether a text was encoded before. -/
theorem decode_encode (keeps : KeepsTriples mustEncode) (cs : List Char) :
    decode (encode mustEncode cs) = decode cs := by
  rw [decode, bytes_encode, decodeBytes_flatMap keeps, decode]

end Reading

theorem keepsTriples_inPath : KeepsTriples inPath where
  mark := rfl
  digit := by
    intro c digit
    obtain ⟨value, valued⟩ := Option.isSome_iff_exists.mp digit
    have checked : ∀ n < 0x80, (hexValue? (Char.ofNat n)).isSome = true →
        inPath (Char.ofNat n) = false := by decide
    exact of_isAsciiChar (fun c => (hexValue? c).isSome = true → inPath c = false) checked
      (hexValue?_bounds valued).2 digit

/-- Decoding leaves bytes as they are or makes them fewer. -/
theorem decodeBytes_eq_or_shorter (bs : List UInt8) :
    decodeBytes bs = bs ∨ (decodeBytes bs).length < bs.length := by
  have cons {b : UInt8} {rest : List UInt8}
      (later : decodeBytes rest = rest ∨ (decodeBytes rest).length < rest.length) :
      b :: decodeBytes rest = b :: rest ∨ (b :: decodeBytes rest).length < (b :: rest).length := by
    rcases later with same | shorter
    · exact .inl (by rw [same])
    · exact .inr (Nat.succ_lt_succ shorter)
  induction bs using decodeBytes.induct with
  | case1 b high low tail mark h l first second ih =>
      refine .inr ?_
      rw [decodeBytes, if_pos mark, first, second]
      have bound : (decodeBytes tail).length ≤ tail.length := by
        rcases ih with same | shorter
        · exact Nat.le_of_eq (by rw [same])
        · exact Nat.le_of_lt shorter
      simp only [List.length_cons]
      omega
  | case2 b high low tail mark alone ih =>
      have same : decodeBytes (b :: high :: low :: tail) =
          b :: decodeBytes (high :: low :: tail) := by
        rw [decodeBytes, if_pos mark]
        split
        next h l first second => exact (alone h l first second).elim
        next => rfl
      rw [same]
      exact cons ih
  | case3 b high low tail plain ih =>
      rw [decodeBytes_cons_of_ne plain]
      exact cons ih
  | case4 bs few => exact .inl (by rw [decodeBytes]; exact few)

/-- A part of a text that spells the text is all of it. -/
theorem eq_of_sublist_of_decode {piece whole : List Char} (part : piece.Sublist whole)
    (decoded : decode piece = Utf8.encode whole) : piece = whole := by
  have bound : (Utf8.encode piece).length ≤ (Utf8.encode whole).length :=
    (part.flatMap String.utf8EncodeChar).length_le
  rcases decodeBytes_eq_or_shorter (Utf8.encode piece) with same | shorter
  · exact Utf8.encode_injective (same.symm.trans decoded)
  · have length := congrArg List.length decoded
    rw [decode] at length
    omega

end PanelBoard.Url.Percent
