/-!
# UTF-8

Characters as bytes and bytes as characters. `decode?` refuses what is not
UTF-8; `decodeLossy` puts one replacement character for every maximal broken
beginning of a character, so it never fails.
-/

namespace PanelBoard.Text.Utf8

/-- The bytes of a list of characters. -/
def encode (cs : List Char) : List UInt8 :=
  cs.flatMap String.utf8EncodeChar

/-- The bytes of a text. -/
def bytes (text : String) : List UInt8 :=
  encode text.toList

/-- A continuation byte within the given bounds. -/
def isTail (low high : Nat) (b : UInt8) : Bool :=
  low ≤ b.toNat && b.toNat ≤ high

/-- The payload of a continuation byte. -/
def tailBits (b : UInt8) : Nat :=
  b.toNat % 64

/-- Bounds of the byte after a lead byte of three: no overlong form and no surrogate. -/
def secondOfThree (lead : Nat) : Nat × Nat :=
  if lead = 0xE0 then (0xA0, 0xBF) else if lead = 0xED then (0x80, 0x9F) else (0x80, 0xBF)

/-- Bounds of the byte after a lead byte of four: no overlong form, nothing above U+10FFFF. -/
def secondOfFour (lead : Nat) : Nat × Nat :=
  if lead = 0xF0 then (0x90, 0xBF) else if lead = 0xF4 then (0x80, 0x8F) else (0x80, 0xBF)

/-- The front of a byte list beginning with `lead`: how many bytes after `lead`
belong to it, and the character spelt, if it is complete. -/
def front (lead : UInt8) (rest : List UInt8) : Nat × Option Char :=
  let n := lead.toNat
  if n < 0x80 then (0, some (Char.ofNat n))
  else if 0xC2 ≤ n && n ≤ 0xDF then
    match rest with
    | b :: _ =>
      if isTail 0x80 0xBF b then (1, some (Char.ofNat (n % 32 * 64 + tailBits b))) else (0, none)
    | [] => (0, none)
  else if 0xE0 ≤ n && n ≤ 0xEF then
    let (low, high) := secondOfThree n
    match rest with
    | b :: c :: _ =>
      if isTail low high b then
        if isTail 0x80 0xBF c then
          (2, some (Char.ofNat (n % 16 * 4096 + tailBits b * 64 + tailBits c)))
        else (1, none)
      else (0, none)
    | [b] => if isTail low high b then (1, none) else (0, none)
    | [] => (0, none)
  else if 0xF0 ≤ n && n ≤ 0xF4 then
    let (low, high) := secondOfFour n
    match rest with
    | b :: c :: d :: _ =>
      if isTail low high b then
        if isTail 0x80 0xBF c then
          if isTail 0x80 0xBF d then
            (3, some (Char.ofNat
              (n % 8 * 262144 + tailBits b * 4096 + tailBits c * 64 + tailBits d)))
          else (2, none)
        else (1, none)
      else (0, none)
    | [b, c] =>
      if isTail low high b then if isTail 0x80 0xBF c then (2, none) else (1, none) else (0, none)
    | [b] => if isTail low high b then (1, none) else (0, none)
    | [] => (0, none)
  else (0, none)

/-- The characters spelt from the front on, with `none` for every broken one. -/
def scan : List UInt8 → List (Option Char)
  | [] => []
  | lead :: rest => (front lead rest).2 :: scan (rest.drop (front lead rest).1)
termination_by bs => bs.length
decreasing_by
  simp only [List.length_drop, List.length_cons]
  omega

/-- The characters of well-formed UTF-8. -/
def decode? (bs : List UInt8) : Option (List Char) :=
  (scan bs).mapM id

/-- The characters of any bytes, broken beginnings replaced by U+FFFD. -/
def decodeLossy (bs : List UInt8) : List Char :=
  (scan bs).map (·.getD (Char.ofNat 0xFFFD))

/-- Where strict decoding succeeds, lossy decoding agrees with it. -/
theorem decodeLossy_of_decode? {bs : List UInt8} {cs : List Char}
    (decoded : decode? bs = some cs) : decodeLossy bs = cs := by
  unfold decode? at decoded
  unfold decodeLossy
  generalize scan bs = scanned at decoded
  induction scanned generalizing cs with
  | nil => simp_all
  | cons head tail ih =>
    cases head with
    | none => simp [List.mapM_cons] at decoded
    | some c =>
      simp only [List.mapM_cons, id, Option.bind_eq_bind, Option.bind_some] at decoded
      cases tailDecoded : tail.mapM id with
      | none => rw [tailDecoded] at decoded; simp at decoded
      | some rest =>
        rw [tailDecoded] at decoded
        simp only [Option.bind_some, Option.pure_def, Option.some.injEq] at decoded
        subst decoded
        simp [ih tailDecoded]

end PanelBoard.Text.Utf8
