import PanelBoard.Text.Split

/-!
# Punycode

The bootstring coding of labels with characters outside ASCII (RFC 3492). The
ASCII characters come first; after a hyphen, variable-length numbers in base 36
say which further characters to insert and where.
-/

namespace PanelBoard.Url.Idna.Punycode

open PanelBoard.Text

/-- The letter or digit with a given value below 36. -/
def digitChar (value : Nat) : Char :=
  if value < 26 then Char.ofNat (0x61 + value) else Char.ofNat (0x30 + (value - 26))

/-- The value of a letter or digit. -/
def digitValue? (c : Char) : Option Nat :=
  let n := c.toNat
  if 0x61 ≤ n ∧ n ≤ 0x7A then some (n - 0x61)
  else if 0x41 ≤ n ∧ n ≤ 0x5A then some (n - 0x41)
  else if 0x30 ≤ n ∧ n ≤ 0x39 then some (n - 0x30 + 26)
  else none

/-- The threshold of the digit with weight index `k`, between 1 and 26. -/
def threshold (k bias : Nat) : Nat :=
  if k ≤ bias then 1 else if bias + 26 ≤ k then 26 else k - bias

/-- Every threshold leaves digits on both sides. -/
theorem threshold_bounds (k bias : Nat) : 1 ≤ threshold k bias ∧ threshold k bias ≤ 26 := by
  unfold threshold
  split
  · omega
  · split <;> omega

/-- Scale a delta down, counting 36 for every division by 35. -/
def scaleDown (delta k : Nat) : Nat × Nat :=
  if 455 < delta then scaleDown (delta / 35) (k + 36) else (delta, k)
termination_by delta
decreasing_by exact Nat.div_lt_self (by omega) (by omega)

/-- The bias after a delta, of which the first is damped. -/
def adapt (delta count : Nat) (isFirst : Bool) : Nat :=
  let damped := if isFirst then delta / 700 else delta / 2
  let (scaled, k) := scaleDown (damped + damped / count) 0
  k + 36 * scaled / (scaled + 38)

/-- The digits of a delta. -/
def encodeDelta (bias k delta : Nat) : List Char :=
  let t := threshold k bias
  if delta < t then [digitChar delta]
  else
    digitChar (t + (delta - t) % (36 - t)) :: encodeDelta bias (k + 36) ((delta - t) / (36 - t))
termination_by delta
decreasing_by
  have bounds := threshold_bounds k bias
  calc (delta - threshold k bias) / (36 - threshold k bias)
      ≤ delta - threshold k bias := Nat.div_le_self _ _
    _ < delta := by omega

/-- Where an encoder stands: the digits written, the pending delta, the bias
and the number of characters already coded. -/
structure Encoder where
  written : List Char
  delta : Nat
  bias : Nat
  coded : Nat

/-- Pass one character of the label while the character `code` is being coded. -/
def Encoder.pass (asciiCount code : Nat) (state : Encoder) (c : Char) : Encoder :=
  if c.toNat < code then { state with delta := state.delta + 1 }
  else if c.toNat = code then
    { written := state.written ++ encodeDelta state.bias 36 state.delta
      delta := 0
      bias := adapt state.delta (state.coded + 1) (state.coded == asciiCount)
      coded := state.coded + 1 }
  else state

/-- Code the given characters, in ascending order, from code point `next` on. -/
def encodeFrom (label : List Char) (asciiCount next : Nat) (state : Encoder) :
    List Nat → List Char
  | [] => state.written
  | code :: codes =>
    let raised := { state with delta := state.delta + (code - next) * (state.coded + 1) }
    let passed := label.foldl (Encoder.pass asciiCount code) raised
    encodeFrom label asciiCount (code + 1) { passed with delta := passed.delta + 1 } codes

/-- The code points of a label outside ASCII, ascending and each once. -/
def codesToEncode (label : List Char) : List Nat :=
  let outside := (label.map Char.toNat).filter (0x80 ≤ ·)
  (outside.mergeSort (· ≤ ·)).foldr
    (fun code codes => if codes.head? = some code then codes else code :: codes) []

/-- The coded form of a label, without its `xn--`. -/
def encode (label : List Char) : List Char :=
  let ascii := label.filter (·.toNat < 0x80)
  let start := if ascii.isEmpty then [] else ascii ++ ['-']
  encodeFrom label ascii.length 0x80
    { written := start, delta := 0, bias := 72, coded := ascii.length } (codesToEncode label)

/-- Read one delta: its value and what follows. -/
def decodeDelta (bias k weight value : Nat) : List Char → Option (Nat × List Char)
  | [] => none
  | c :: rest => do
    let digit ← digitValue? c
    let t := threshold k bias
    let value := value + digit * weight
    if digit < t then return (value, rest)
    else decodeDelta bias (k + 36) (weight * (36 - t)) value rest

/-- Reading a delta consumes input. -/
theorem decodeDelta_length {bias k weight value : Nat} {cs rest : List Char} {delta : Nat}
    (h : decodeDelta bias k weight value cs = some (delta, rest)) : rest.length < cs.length := by
  induction cs generalizing k weight value with
  | nil => simp [decodeDelta] at h
  | cons c tail ih =>
    simp only [decodeDelta, Option.bind_eq_bind] at h
    cases digit : digitValue? c with
    | none => simp [digit] at h
    | some d =>
      simp only [digit, Option.bind_some] at h
      split at h
      · simp only [Option.pure_def, Option.some.injEq, Prod.mk.injEq] at h
        simp [← h.2]
      · have := ih h
        simp only [List.length_cons]
        omega

/-- Insert a character at a position. -/
def insertAt (position : Nat) (c : Char) (cs : List Char) : List Char :=
  cs.take position ++ c :: cs.drop position

/-- Insert the characters coded by `cs` into `decoded`, the last of them having
been `code` at `position`. -/
def decodeFrom (code position bias : Nat) (decoded : List Char) (isFirst : Bool)
    (cs : List Char) : Option (List Char) :=
  if cs.isEmpty then some decoded
  else
    match found : decodeDelta bias 36 1 0 cs with
    | none => none
    | some (delta, rest) =>
      let count := decoded.length + 1
      let total := position + delta
      let code := code + total / count
      if code < 0x110000 ∧ ¬ (0xD800 ≤ code ∧ code < 0xE000) then
        have : rest.length < cs.length := decodeDelta_length found
        decodeFrom code (total % count + 1) (adapt delta count isFirst)
          (insertAt (total % count) (Char.ofNat code) decoded) false rest
      else none
termination_by cs.length

/-- The label coded by a text, without its `xn--`. -/
def decode? (cs : List Char) : Option (List Char) :=
  match cutAtLast? (· == '-') cs with
  | some (ascii, coded) =>
    if ascii.all (·.toNat < 0x80) then decodeFrom 0x80 0 72 ascii true coded else none
  | none => decodeFrom 0x80 0 72 [] true cs

end PanelBoard.Url.Idna.Punycode
