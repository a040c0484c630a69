import PanelBoard.Text.Digit
import PanelBoard.Text.Split

/-!
# Socket addresses

The strict written form of an IP address with a port: dotted decimal without
leading zeros, or an IPv6 address in brackets with an optional numeric scope.
No host names, no missing port.
-/

namespace PanelBoard.Net

open PanelBoard.Text

/-- An IP address. -/
inductive IpAddress where
  | v4 (octets : List Nat)
  | v6 (pieces : List Nat) (scope : Nat)
  deriving Repr, DecidableEq

/-- An IP address with a port. -/
structure SocketAddress where
  ip : IpAddress
  port : Nat
  deriving Repr, DecidableEq

namespace SocketAddress

/-- A decimal number up to a bound, with as many leading zeros as one likes. -/
def boundedNumber? (bound : Nat) (digits : List Char) : Option Nat :=
  (numeral? 10 digits).filter (· ≤ bound)

/-- One number of a dotted address: at most three digits, no leading zero. -/
def octet? (digits : List Char) : Option Nat :=
  match digits with
  | '0' :: _ :: _ => none
  | _ => if digits.length ≤ 3 then boundedNumber? 255 digits else none

/-- Four numbers with dots between them. -/
def ipv4? (cs : List Char) : Option (List Nat) :=
  match (splitOn (· == '.') cs).mapM octet? with
  | some [a, b, c, d] => some [a, b, c, d]
  | _ => none

/-- One piece of an IPv6 address: one to four hexadecimal digits. -/
def piece? (digits : List Char) : Option Nat :=
  if digits.length ≤ 4 then numeral? 16 digits else none

/-- The pieces between colons; the last two may be written as a dotted address. -/
def pieces? : List (List Char) → Option (List Nat)
  | [] => some []
  | [last] =>
    match piece? last with
    | some piece => some [piece]
    | none =>
      match ipv4? last with
      | some [a, b, c, d] => some [a * 256 + b, c * 256 + d]
      | _ => none
  | first :: rest => do
    let piece ← piece? first
    let pieces ← pieces? rest
    return piece :: pieces

/-- The pieces of a text that may be empty. -/
def piecesOf? (cs : List Char) : Option (List Nat) :=
  if cs.isEmpty then some [] else pieces? (splitOn (· == ':') cs)

/-- Cut at the first double colon. -/
def cutAtGap? : List Char → Option (List Char × List Char)
  | ':' :: ':' :: rest => some ([], rest)
  | c :: rest => (cutAtGap? rest).map fun (front, back) => (c :: front, back)
  | [] => none

/-- Eight pieces, or fewer with a double colon for at least one zero piece. A
dotted address is allowed only at the very end. -/
def ipv6? (cs : List Char) : Option (List Nat) :=
  match cutAtGap? cs with
  | none => (piecesOf? cs).filter (·.length == 8)
  | some (front, back) => do
    guard (!front.contains '.')
    let before ← piecesOf? front
    let behind ← piecesOf? back
    let present := before.length + behind.length
    guard (present < 8)
    return before ++ List.replicate (8 - present) 0 ++ behind

/-- The numeric scope behind a percent sign; without one the scope is zero. -/
def scope? : List Char → Option Nat
  | [] => some 0
  | '%' :: digits => boundedNumber? (Nat.pow 2 32 - 1) digits
  | _ => none

/-- The port behind a colon. -/
def port? : List Char → Option Nat
  | ':' :: digits => boundedNumber? 65535 digits
  | _ => none

/-- Read a bracketed address from behind its bracket. -/
def bracketed? (cs : List Char) : Option SocketAddress := do
  let (inside, rest) := cutBefore (· == ']') cs
  let (address, scopeText) := cutBefore (· == '%') inside
  let pieces ← ipv6? address
  let scope ← scope? scopeText
  let port ← port? (rest.drop 1)
  return { ip := .v6 pieces scope, port }

/-- Read a socket address. -/
def parse? (text : String) : Option SocketAddress :=
  match text.toList with
  | '[' :: rest => bracketed? rest
  | cs => do
    let (address, portText) := cutBefore (· == ':') cs
    let octets ← ipv4? address
    let port ← port? portText
    return { ip := .v4 octets, port }

end SocketAddress

end PanelBoard.Net
