import PanelBoard.Text.Digit
import PanelBoard.Proofs.Text.Utf8

/-!
# ASCII

Characters below U+0080. A property of all of them is checked one by one, and
each is one byte.
-/

namespace PanelBoard.Text

/-- Is the character below U+0080? -/
def isAsciiChar (c : Char) : Bool :=
  c.toNat < 0x80

/-- A property that all numbers below U+0080 have holds of a character in ASCII. -/
theorem of_isAsciiChar (property : Char → Prop) (checked : ∀ n < 0x80, property (Char.ofNat n))
    {c : Char} (ascii : isAsciiChar c = true) : property c :=
  Char.ofNat_toNat c ▸ checked c.toNat (of_decide_eq_true ascii)

theorem isAsciiChar_of_isAlphanum {c : Char} (alphanumeric : c.isAlphanum = true) :
    isAsciiChar c = true := by
  delta Char.isAlphanum Char.isAlpha Char.isUpper Char.isLower Char.isDigit at alphanumeric
  simp only [Bool.or_eq_true, Bool.and_eq_true, decide_eq_true_eq, UInt32.le_iff_toNat_le,
    ge_iff_le] at alphanumeric
  change ((65 ≤ c.toNat ∧ c.toNat ≤ 90) ∨ (97 ≤ c.toNat ∧ c.toNat ≤ 122)) ∨
    (48 ≤ c.toNat ∧ c.toNat ≤ 57) at alphanumeric
  rw [isAsciiChar, decide_eq_true_eq]
  omega

/-- The value of a digit is below sixteen, and its character is in ASCII. -/
theorem hexValue?_bounds {c : Char} {digit : Nat} (value : hexValue? c = some digit) :
    digit < 16 ∧ isAsciiChar c = true := by
  rw [isAsciiChar, decide_eq_true_eq]
  unfold hexValue? at value
  grind

/-- A character in ASCII is one byte, which is its number. -/
theorem utf8EncodeChar_of_isAsciiChar {c : Char} (ascii : isAsciiChar c = true) :
    String.utf8EncodeChar c = [UInt8.ofNat c.toNat] := by
  have low : c.toNat < 0x80 := of_decide_eq_true ascii
  refine (Utf8.form_utf8EncodeChar c).unique (.one low ?_)
  exact UInt8.toNat_ofNat_of_lt' (Nat.lt_trans low (by decide))

/-- No byte of a character outside ASCII is one of ASCII. -/
theorem high_utf8EncodeChar {c : Char} (outside : isAsciiChar c = false) :
    ∀ b ∈ String.utf8EncodeChar c, 0x80 ≤ b.toNat := by
  have high : 0x80 ≤ c.toNat := by simpa [isAsciiChar] using outside
  have form := Utf8.form_utf8EncodeChar c
  generalize String.utf8EncodeChar c = bytes at form
  intro b member
  cases form <;> simp only [List.mem_cons, List.not_mem_nil, or_false] at member <;> grind

/-- The byte of a character in ASCII gives the character back. -/
theorem ofNat_byte {c : Char} (ascii : isAsciiChar c = true) :
    Char.ofNat (UInt8.ofNat c.toNat).toNat = c := by
  have low : c.toNat < 0x80 := of_decide_eq_true ascii
  rw [UInt8.toNat_ofNat_of_lt' (Nat.lt_trans low (by decide)), Char.ofNat_toNat]

end PanelBoard.Text
