import PanelBoard.Text.Digit
import PanelBoard.Text.Split

/-!
# IPv4 hosts

A domain whose last label looks like a number is an IPv4 address written with
one to four numbers in decimal, octal or hexadecimal; the last number fills all
the remaining bytes.
-/

namespace PanelBoard.Url.Ipv4

open PanelBoard.Text

/-- The number written by one part: `0x` begins hexadecimal and `0` octal; a
bare prefix is zero. -/
def number? (part : List Char) : Option Nat :=
  let inBase (base : Nat) (digits : List Char) : Option Nat :=
    if digits.isEmpty then some 0 else numeral? base digits
  match part with
  | [] => none
  | '0' :: 'x' :: digits => inBase 16 digits
  | '0' :: 'X' :: digits => inBase 16 digits
  | '0' :: c :: digits => inBase 8 (c :: digits)
  | _ => numeral? 10 part

/-- The labels of a domain without the empty one after a trailing dot. -/
def labels (domain : List Char) : List (List Char) :=
  let parts := splitOn (· == '.') domain
  if parts.getLast? = some [] then parts.dropLast else parts

/-- Does the last label of a domain look like a number? -/
def endsInNumber (domain : List Char) : Bool :=
  match (labels domain).getLast? with
  | none => false
  | some last => (!last.isEmpty && last.all Char.isDigit) || (number? last).isSome

/-- The address written by a domain that ends in a number. -/
def parse? (domain : List Char) : Option Nat := do
  let parts := labels domain
  guard (parts.length ≤ 4)
  let numbers ← parts.mapM number?
  let last ← numbers.getLast?
  let front := numbers.dropLast
  guard (last < Nat.pow 256 (4 - front.length))
  guard (front.all (· < 256))
  return front.zipIdx.foldl (fun sum (n, i) => sum + n * Nat.pow 256 (3 - i)) last

/-- Dotted decimal. -/
def render (address : Nat) : List Char :=
  joinWith ['.'] ([3, 2, 1, 0].map fun i => decimal (address / Nat.pow 256 i % 256))

end PanelBoard.Url.Ipv4
