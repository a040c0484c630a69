import PanelBoard.Text.Digit

/-!
# Reading numerals back

A numeral in a base up to sixteen is read as the number that it was written for,
and it begins with zero only if it is zero.
-/

namespace PanelBoard.Text

/-- The value of a written digit is the digit. -/
theorem digitValue?_digitChar {base digit : Nat} (small : base ≤ 16) (within : digit < base) :
    digitValue? base digit.digitChar = some digit := by
  have values : ∀ digit < 16, hexValue? (Nat.digitChar digit) = some digit := by decide
  rw [digitValue?, values digit (by omega), Option.filter_some, if_pos (by simpa using within)]

/-- Reading digits one after another, from a value on. -/
def readDigits (base value : Nat) (digits : List Char) : Option Nat :=
  digits.foldlM (fun value c => (digitValue? base c).map (value * base + ·)) value

theorem readDigits_append (base value : Nat) (front back : List Char) :
    readDigits base value (front ++ back) =
      (readDigits base value front).bind (readDigits base · back) := by
  rw [readDigits, List.foldlM_append]
  rfl

theorem readDigits_digitChar {base digit : Nat} (small : base ≤ 16) (within : digit < base)
    (value : Nat) : readDigits base value [digit.digitChar] = some (value * base + digit) := by
  simp [readDigits, digitValue?_digitChar small within]

theorem readDigits_cons_iff {base value n : Nat} {c : Char} {digits : List Char} :
    readDigits base value (c :: digits) = some n ↔
      ∃ digit, digitValue? base c = some digit ∧
        readDigits base (value * base + digit) digits = some n := by
  rw [readDigits, List.foldlM_cons]
  constructor
  · intro read
    obtain ⟨next, found, read⟩ := Option.bind_eq_some_iff.mp read
    obtain ⟨digit, valued, rfl⟩ := Option.map_eq_some_iff.mp found
    exact ⟨digit, valued, read⟩
  · rintro ⟨digit, valued, read⟩
    rw [valued]
    exact read

/-- Reading more digits does not make a number smaller. -/
theorem le_readDigits {base value n : Nat} {digits : List Char} (positive : 0 < base)
    (read : readDigits base value digits = some n) : value ≤ n := by
  induction digits generalizing value with
  | nil => exact Nat.le_of_eq (Option.some.inj read)
  | cons c digits ih =>
      obtain ⟨digit, -, read⟩ := readDigits_cons_iff.mp read
      exact Nat.le_trans (Nat.le_trans (Nat.le_mul_of_pos_right value positive)
        (Nat.le_add_right ..)) (ih read)

/-- A numeral consists of digits of its base. -/
theorem mem_toDigits {base n : Nat} (least : 1 < base) {c : Char}
    (member : c ∈ Nat.toDigits base n) : ∃ digit < base, c = digit.digitChar := by
  induction n using Nat.strongRecOn with
  | ind n ih =>
      rw [Nat.toDigits_eq_if least] at member
      split at member
      next single => exact ⟨n, single, List.mem_singleton.mp member⟩
      next several =>
        rcases List.mem_append.mp member with front | last
        · exact ih _ (Nat.div_lt_self (by omega) least) front
        · exact ⟨n % base, Nat.mod_lt n (by omega), List.mem_singleton.mp last⟩

/-- The digits of a number are read as the number. -/
theorem readDigits_toDigits {base : Nat} (least : 1 < base) (small : base ≤ 16) (n : Nat) :
    readDigits base 0 (Nat.toDigits base n) = some n := by
  induction n using Nat.strongRecOn with
  | ind n ih =>
      rw [Nat.toDigits_eq_if least]
      split
      next single =>
        rw [readDigits_digitChar small single, Nat.zero_mul, Nat.zero_add]
      next several =>
        have shorter : n / base < n := Nat.div_lt_self (by omega) least
        have last : n % base < base := Nat.mod_lt n (by omega)
        rw [readDigits_append, ih _ shorter, Option.bind_some,
          readDigits_digitChar small last, Nat.mul_comm, Nat.div_add_mod]

theorem numeral?_toDigits {base : Nat} (least : 1 < base) (small : base ≤ 16) (n : Nat) :
    numeral? base (Nat.toDigits base n) = some n := by
  rw [numeral?, if_neg (by simp)]
  exact readDigits_toDigits least small n

@[simp] theorem numeral?_decimal (n : Nat) : numeral? 10 (decimal n) = some n :=
  numeral?_toDigits (by decide) (by decide) n

theorem isDigit_of_mem_decimal {n : Nat} {c : Char} (member : c ∈ decimal n) : c.isDigit = true :=
  Nat.isDigit_of_mem_toDigits (by decide) (by decide) member

theorem decimal_ne_nil (n : Nat) : decimal n ≠ [] :=
  Nat.toDigits_ne_nil

/-- Only the numeral of zero begins with zero. -/
theorem head?_decimal {n : Nat} (positive : 0 < n) : (decimal n).head? ≠ some '0' := by
  unfold decimal
  induction n using Nat.strongRecOn with
  | ind n ih =>
      rw [Nat.toDigits_eq_if (by decide)]
      split
      next single =>
        have digits : ∀ digit < 10, 0 < digit → Nat.digitChar digit ≠ '0' := by decide
        simpa using digits n single positive
      next several =>
        have front := ih (n / 10) (by omega) (by omega)
        obtain ⟨first, rest, digits⟩ := List.exists_cons_of_ne_nil (l := Nat.toDigits 10 (n / 10))
          Nat.toDigits_ne_nil
        rwa [digits] at front ⊢

end PanelBoard.Text
