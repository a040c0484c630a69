import PanelBoard.Text.Digit
import PanelBoard.Text.Split

/-!
# IPv6 hosts

Eight pieces of sixteen bits. The written form may leave out one run of zero
pieces as `::` and may give the last two pieces in dotted decimal; the printed
form leaves out the first longest run of at least two zero pieces.
-/

namespace PanelBoard.Url.Ipv6

open PanelBoard.Text

/-- A piece of an address: one to four hexadecimal digits, and what follows them. -/
def takePiece (cs : List Char) : Nat × Nat × List Char :=
  let digits := (cs.take 4).takeWhile (fun c => (hexValue? c).isSome)
  (digits.length, (numeral? 16 digits).getD 0, cs.drop digits.length)

/-- One number of the dotted tail: decimal, at most 255, without a leading zero. -/
def octet? (digits : List Char) : Option Nat :=
  match digits with
  | '0' :: _ :: _ => none
  | _ => (numeral? 10 digits).filter (· < 256)

/-- The two pieces written by a dotted tail of exactly four numbers. -/
def dottedTail? (cs : List Char) : Option (List Nat) :=
  match (splitOn (· == '.') cs).mapM octet? with
  | some [a, b, c, d] => some [a * 256 + b, c * 256 + d]
  | _ => none

/-- Pieces read so far, and where among them the `::` stands. -/
structure Progress where
  pieces : List Nat := []
  gap : Option Nat := none

/-- How many of the eight places are taken; the `::` takes one. -/
def Progress.taken (state : Progress) : Nat :=
  state.pieces.length + if state.gap.isSome then 1 else 0

/-- Read the pieces from `cs`. At the start of a piece, a second colon is the
`::`, allowed once; after a piece comes a colon that something follows, or the end. -/
def readPieces (fuel : Nat) (state : Progress) (cs : List Char) : Option Progress :=
  match fuel with
  | 0 => none
  | fuel + 1 =>
    match cs with
    | [] => some state
    | c :: rest =>
      if state.taken = 8 then none
      else if c = ':' then
        if state.gap.isSome then none
        else readPieces fuel { state with gap := some state.pieces.length } rest
      else
        let (count, value, after) := takePiece cs
        match after with
        | [] => some { state with pieces := state.pieces ++ [value] }
        | '.' :: _ =>
          if count = 0 || 6 < state.taken then none
          else (dottedTail? cs).map fun tail => { state with pieces := state.pieces ++ tail }
        | ':' :: [] => none
        | ':' :: tail =>
          readPieces fuel { state with pieces := state.pieces ++ [value] } tail
        | _ => none

/-- Fill the gap with zero pieces so that there are eight. -/
def Progress.close? (state : Progress) : Option (List Nat) :=
  match state.gap with
  | some place =>
    some (state.pieces.take place ++ List.replicate (8 - state.pieces.length) 0 ++
      state.pieces.drop place)
  | none => if state.pieces.length = 8 then some state.pieces else none

/-- The eight pieces of a written address, without brackets. -/
def parse? (cs : List Char) : Option (List Nat) := do
  let state ← match cs with
    | ':' :: ':' :: rest => readPieces (cs.length + 1) { gap := some 0 } rest
    | ':' :: _ => none
    | _ => readPieces (cs.length + 1) {} cs
  state.close?

/-- Start and length of the first longest run of zeros. -/
def longestZeroRun (pieces : List Nat) : Nat × Nat :=
  (List.range pieces.length).foldl
    (fun best start =>
      let run := ((pieces.drop start).takeWhile (· == 0)).length
      if best.2 < run then (start, run) else best)
    (0, 0)

/-- The printed form, without brackets. -/
def render (pieces : List Nat) : List Char :=
  let (start, run) := longestZeroRun pieces
  let written (ps : List Nat) := joinWith [':'] (ps.map lowerHex)
  if run < 2 then written pieces
  else written (pieces.take start) ++ [':', ':'] ++ written (pieces.drop (start + run))

end PanelBoard.Url.Ipv6
