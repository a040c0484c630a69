/-!
# Digits and numerals

Reading and writing numerals in bases up to sixteen. Letters are accepted in
either case and written in the case the caller picks.
-/

namespace PanelBoard.Text

/-- The value of a digit or of a letter up to `f`, in either case. -/
def hexValue? (c : Char) : Option Nat :=
  let n := c.toNat
  if 0x30 ≤ n ∧ n ≤ 0x39 then some (n - 0x30)
  else if 0x41 ≤ n ∧ n ≤ 0x46 then some (n - 0x37)
  else if 0x61 ≤ n ∧ n ≤ 0x66 then some (n - 0x57)
  else none

/-- The value of a digit of base `base`, for bases up to sixteen. -/
def digitValue? (base : Nat) (c : Char) : Option Nat :=
  (hexValue? c).filter (· < base)

/-- The number written by a list of digits, none of them missing. -/
def numeral? (base : Nat) (digits : List Char) : Option Nat :=
  if digits.isEmpty then none
  else digits.foldlM (fun value c => (digitValue? base c).map (value * base + ·)) 0

/-- One upper-case hexadecimal digit. -/
def upperHexDigit (n : Nat) : Char :=
  if n < 10 then Char.ofNat (0x30 + n) else Char.ofNat (0x37 + n)

/-- One lower-case hexadecimal digit. -/
def lowerHexDigit (n : Nat) : Char :=
  if n < 10 then Char.ofNat (0x30 + n) else Char.ofNat (0x57 + n)

/-- The numeral of `n` without leading zeros, in lower-case hexadecimal. -/
def lowerHex (n : Nat) : List Char :=
  Nat.toDigits 16 n

/-- The decimal numeral of `n`. -/
def decimal (n : Nat) : List Char :=
  Nat.toDigits 10 n

end PanelBoard.Text
