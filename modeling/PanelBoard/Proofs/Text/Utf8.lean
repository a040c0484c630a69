import PanelBoard.Text.Utf8

/-!
# Reading UTF-8 back

Bytes are read as characters exactly if they are the bytes of those characters,
so strict decoding is the way back from encoding and accepts nothing else.
-/

namespace PanelBoard.Text.Utf8

theorem encode_cons (c : Char) (cs : List Char) :
    encode (c :: cs) = String.utf8EncodeChar c ++ encode cs := by
  rw [encode, List.flatMap_cons, encode]

theorem encode_append (front back : List Char) :
    encode (front ++ back) = encode front ++ encode back := by
  rw [encode, List.flatMap_append, encode, encode]

/-- A code point outside the surrogates is that of its character. -/
theorem toNat_ofNat {n : Nat} (valid : n.isValidChar) : (Char.ofNat n).toNat = n := by
  rw [Char.ofNat, dif_pos valid]
  rfl

/-- The bytes of a code point: the first says how many follow, and each of those
holds six bits. -/
inductive Form (n : Nat) : List UInt8 → Prop where
  | one {a : UInt8} (high : n < 0x80) (first : a.toNat = n) : Form n [a]
  | two {a b : UInt8} (low : 0x80 ≤ n) (high : n < 0x800) (first : a.toNat = 0xC0 + n / 64)
      (second : b.toNat = 0x80 + n % 64) : Form n [a, b]
  | three {a b c : UInt8} (low : 0x800 ≤ n) (high : n < 0x10000)
      (first : a.toNat = 0xE0 + n / 4096) (second : b.toNat = 0x80 + n / 64 % 64)
      (third : c.toNat = 0x80 + n % 64) : Form n [a, b, c]
  | four {a b c d : UInt8} (low : 0x10000 ≤ n) (high : n < 0x110000)
      (first : a.toNat = 0xF0 + n / 262144) (second : b.toNat = 0x80 + n / 4096 % 64)
      (third : c.toNat = 0x80 + n / 64 % 64) (fourth : d.toNat = 0x80 + n % 64) :
      Form n [a, b, c, d]

/-- A code point has one form. -/
theorem Form.unique {n : Nat} {bytes others : List UInt8} (form : Form n bytes)
    (other : Form n others) : bytes = others := by
  cases form <;> cases other <;>
    first
    | omega
    | simp only [List.cons.injEq, and_true, ← UInt8.toNat_inj]; omega

/-- The bytes of a character are in the form of its code point. -/
theorem form_utf8EncodeChar (c : Char) : Form c.toNat (String.utf8EncodeChar c) := by
  have valid : c.toNat < 0xD800 ∨ 0xDFFF < c.toNat ∧ c.toNat < 0x110000 := c.valid
  change Form c.toNat (if c.toNat ≤ 127 then [UInt8.ofNat c.toNat] else
    if c.toNat ≤ 2047 then
      [UInt8.ofNat (c.toNat / 64 % 32 + 192), UInt8.ofNat (c.toNat % 64 + 128)]
    else if c.toNat ≤ 65535 then
      [UInt8.ofNat (c.toNat / 4096 % 16 + 224), UInt8.ofNat (c.toNat / 64 % 64 + 128),
        UInt8.ofNat (c.toNat % 64 + 128)]
    else
      [UInt8.ofNat (c.toNat / 262144 % 8 + 240), UInt8.ofNat (c.toNat / 4096 % 64 + 128),
        UInt8.ofNat (c.toNat / 64 % 64 + 128), UInt8.ofNat (c.toNat % 64 + 128)])
  generalize c.toNat = n at *
  have byte {k : Nat} (small : k < 256) : (UInt8.ofNat k).toNat = k :=
    UInt8.toNat_ofNat_of_lt' small
  split
  next ascii => exact .one (by omega) (byte (by omega))
  next =>
    split
    next => refine .two ?_ ?_ ?_ ?_ <;> (try rw [byte]) <;> omega
    next =>
      split
      next => refine .three ?_ ?_ ?_ ?_ ?_ <;> (try rw [byte]) <;> omega
      next => refine .four ?_ ?_ ?_ ?_ ?_ ?_ <;> (try rw [byte]) <;> omega

theorem isTail_iff {low high : Nat} {b : UInt8} :
    isTail low high b = true ↔ low ≤ b.toNat ∧ b.toNat ≤ high := by
  simp [isTail]

/-- The second of three bytes is within its bounds unless a surrogate is spelt. -/
theorem isTail_secondOfThree {n : Nat} {a b : UInt8} (low : 0x800 ≤ n) (high : n < 0x10000)
    (valid : n < 0xD800 ∨ 0xDFFF < n) (first : a.toNat = 0xE0 + n / 4096)
    (second : b.toNat = 0x80 + n / 64 % 64) :
    isTail (secondOfThree a.toNat).1 (secondOfThree a.toNat).2 b = true := by
  rw [isTail_iff, secondOfThree]
  split
  · omega
  · split <;> omega

/-- The second of four bytes is within its bounds. -/
theorem isTail_secondOfFour {n : Nat} {a b : UInt8} (low : 0x10000 ≤ n) (high : n < 0x110000)
    (first : a.toNat = 0xF0 + n / 262144) (second : b.toNat = 0x80 + n / 4096 % 64) :
    isTail (secondOfFour a.toNat).1 (secondOfFour a.toNat).2 b = true := by
  rw [isTail_iff, secondOfFour]
  split
  · omega
  · split <;> omega

/-- Bytes in the form of a code point are read as its character, whatever follows. -/
theorem front_of_form {n : Nat} {lead : UInt8} {more : List UInt8} (form : Form n (lead :: more))
    (valid : n < 0xD800 ∨ 0xDFFF < n) (rest : List UInt8) :
    front lead (more ++ rest) = (more.length, some (Char.ofNat n)) := by
  simp only [front, Bool.and_eq_true, decide_eq_true_eq]
  cases form with
  | one high first =>
      rw [if_pos (by omega), first]
      rfl
  | two low high first second =>
      simp only [List.cons_append, List.nil_append]
      rw [if_neg (by omega), if_pos (by omega), if_pos (isTail_iff.mpr (by omega)), tailBits]
      congr
      omega
  | three low high first second third =>
      simp only [List.cons_append, List.nil_append]
      rw [if_neg (by omega), if_neg (by omega), if_pos (by omega),
        if_pos (isTail_secondOfThree low high valid first second),
        if_pos (isTail_iff.mpr (by omega)), tailBits, tailBits]
      congr
      omega
  | four low high first second third fourth =>
      simp only [List.cons_append, List.nil_append]
      rw [if_neg (by omega), if_neg (by omega), if_neg (by omega), if_pos (by omega),
        if_pos (isTail_secondOfFour low high first second), if_pos (isTail_iff.mpr (by omega)),
        if_pos (isTail_iff.mpr (by omega)), tailBits, tailBits, tailBits]
      congr
      omega

/-- No overlong form of three bytes passes, and no surrogate. -/
theorem bounds_of_secondOfThree {lead : Nat} {b : UInt8}
    (tail : isTail (secondOfThree lead).1 (secondOfThree lead).2 b = true) :
    0x80 ≤ b.toNat ∧ b.toNat ≤ 0xBF ∧ (lead = 0xE0 → 0xA0 ≤ b.toNat) ∧
      (lead = 0xED → b.toNat ≤ 0x9F) := by
  rw [isTail_iff, secondOfThree] at tail
  split at tail
  · omega
  · split at tail <;> omega

/-- No overlong form of four bytes passes, and nothing above the last code point. -/
theorem bounds_of_secondOfFour {lead : Nat} {b : UInt8}
    (tail : isTail (secondOfFour lead).1 (secondOfFour lead).2 b = true) :
    0x80 ≤ b.toNat ∧ b.toNat ≤ 0xBF ∧ (lead = 0xF0 → 0x90 ≤ b.toNat) ∧
      (lead = 0xF4 → b.toNat ≤ 0x8F) := by
  rw [isTail_iff, secondOfFour] at tail
  split at tail
  · omega
  · split at tail <;> omega

/-- What was read has the bytes of a code point, if its form is right. -/
theorem form_of_read {n count : Nat} {c : Char} {read : Nat} {bytes : List UInt8}
    (found : (read, some (Char.ofNat n)) = (count, some c)) (valid : n.isValidChar)
    (form : Form n bytes) : Form c.toNat bytes ∧ count = read := by
  simp only [Prod.mk.injEq, Option.some.injEq] at found
  obtain ⟨rfl, rfl⟩ := found
  exact ⟨by rwa [toNat_ofNat valid], rfl⟩

/-- Whoever reads a character at the front has its bytes there. -/
theorem form_of_front {lead : UInt8} {rest : List UInt8} {count : Nat} {c : Char}
    (found : front lead rest = (count, some c)) : Form c.toNat (lead :: rest.take count) := by
  simp only [front, Bool.and_eq_true, decide_eq_true_eq] at found
  split at found
  next ascii =>
    obtain ⟨form, rfl⟩ := form_of_read found (.inl (by omega)) (.one ascii rfl)
    exact form
  next =>
    split at found
    next two =>
      cases rest with
      | nil => cases found
      | cons b rest =>
          dsimp only at found
          split at found
          next tail =>
            have bounds := isTail_iff.mp tail
            rw [tailBits] at found
            obtain ⟨form, rfl⟩ := form_of_read found (.inl (by omega))
              (.two (a := lead) (b := b) (by omega) (by omega) (by omega) (by omega))
            exact form
          next => cases found
    next =>
      split at found
      next three =>
        rcases rest with _ | ⟨b, _ | ⟨c, rest⟩⟩ <;> dsimp only at found
        · cases found
        · split at found <;> cases found
        · split at found
          next second =>
            split at found
            next third =>
              have bounds := bounds_of_secondOfThree second
              have last := isTail_iff.mp third
              rw [tailBits, tailBits] at found
              obtain ⟨form, rfl⟩ := form_of_read found (by unfold Nat.isValidChar; omega)
                (.three (a := lead) (b := b) (c := c) (by omega) (by omega) (by omega) (by omega)
                  (by omega))
              exact form
            next => cases found
          next => cases found
      next =>
        split at found
        next four =>
          rcases rest with _ | ⟨b, _ | ⟨c, _ | ⟨d, rest⟩⟩⟩ <;> dsimp only at found
          · cases found
          · split at found <;> cases found
          · split at found
            next => split at found <;> cases found
            next => cases found
          · split at found
            next second =>
              split at found
              next third =>
                split at found
                next fourth =>
                  have bounds := bounds_of_secondOfFour second
                  have third := isTail_iff.mp third
                  have last := isTail_iff.mp fourth
                  rw [tailBits, tailBits, tailBits] at found
                  obtain ⟨form, rfl⟩ := form_of_read found (by unfold Nat.isValidChar; omega)
                    (.four (a := lead) (b := b) (c := c) (d := d) (by omega) (by omega) (by omega)
                      (by omega) (by omega) (by omega))
                  exact form
                next => cases found
              next => cases found
            next => cases found
        next => cases found

/-- The bytes of a character are read as that character, whatever follows. -/
theorem front_of_char (c : Char) (rest : List UInt8) :
    ∃ lead more, String.utf8EncodeChar c = lead :: more ∧
      front lead (more ++ rest) = (more.length, some c) := by
  have form := form_utf8EncodeChar c
  have valid : c.toNat < 0xD800 ∨ 0xDFFF < c.toNat ∧ c.toNat < 0x110000 := c.valid
  generalize String.utf8EncodeChar c = bytes at form
  cases bytes with
  | nil => cases form
  | cons lead more =>
      have read := front_of_form form (by omega) rest
      rw [Char.ofNat_toNat] at read
      exact ⟨lead, more, rfl, read⟩

theorem front_sound {lead : UInt8} {rest : List UInt8} {count : Nat} {c : Char}
    (found : front lead rest = (count, some c)) :
    String.utf8EncodeChar c = lead :: rest.take count :=
  (form_utf8EncodeChar c).unique (form_of_front found)

/-- Encoded characters are read back. -/
theorem scan_encode (cs : List Char) : scan (encode cs) = cs.map some := by
  induction cs with
  | nil => simp [encode, scan]
  | cons c cs ih =>
      obtain ⟨lead, more, bytes, found⟩ := front_of_char c (encode cs)
      rw [encode_cons, bytes, List.cons_append, scan, found, List.drop_left, ih, List.map_cons]

theorem mapM_id_map_some (cs : List Char) : (cs.map some).mapM id = some cs := by
  induction cs with
  | nil => rfl
  | cons c cs ih => simp [ih]

theorem mapM_id_eq_some {read : List (Option Char)} {cs : List Char}
    (whole : read.mapM id = some cs) : read = cs.map some := by
  induction read generalizing cs with
  | nil =>
      cases whole
      rfl
  | cons head tail ih =>
      simp only [List.mapM_cons, id, Option.bind_eq_bind, Option.bind_eq_some_iff,
        Option.pure_def, Option.some.injEq] at whole
      obtain ⟨c, rfl, others, rest, rfl⟩ := whole
      rw [ih rest, List.map_cons]

theorem encode_of_scan {bs : List UInt8} {cs : List Char} (read : scan bs = cs.map some) :
    encode cs = bs := by
  induction cs generalizing bs with
  | nil =>
      cases bs with
      | nil => rfl
      | cons lead rest => simp [scan] at read
  | cons c cs ih =>
      cases bs with
      | nil => simp [scan] at read
      | cons lead rest =>
          rw [scan, List.map_cons, List.cons.injEq] at read
          have found : front lead rest = ((front lead rest).1, some c) := Prod.ext rfl read.1
          rw [encode_cons, front_sound found, ih read.2, List.cons_append, List.take_append_drop]

/-- Bytes spell characters exactly if they are the bytes of those characters. -/
theorem decode?_eq_some_iff {bs : List UInt8} {cs : List Char} :
    decode? bs = some cs ↔ encode cs = bs := by
  constructor
  · intro decoded
    exact encode_of_scan (mapM_id_eq_some decoded)
  · rintro rfl
    rw [decode?, scan_encode, mapM_id_map_some]

theorem decode?_encode (cs : List Char) : decode? (encode cs) = some cs :=
  decode?_eq_some_iff.mpr rfl

/-- Different characters have different bytes. -/
theorem encode_injective {first second : List Char} (same : encode first = encode second) :
    first = second := by
  have decoded := decode?_encode first
  rw [same, decode?_encode] at decoded
  exact (Option.some.inj decoded).symm

theorem bytes_injective {first second : String} (same : bytes first = bytes second) :
    first = second :=
  String.toList_inj.mp (encode_injective same)

end PanelBoard.Text.Utf8
