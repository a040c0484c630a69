import PanelBoard.Http.Head
import PanelBoard.Text.Blank
import PanelBoard.Text.Split

/-!
# Bodies of replies

How a head frames the body behind it, and the bytes of the body. A body of
given length or in chunks ends by itself, any other one where the connection is
closed. What may stand around chunks, extensions and trailing fields, is limited.
-/

namespace PanelBoard.Http

open PanelBoard.Text

/-- How the end of a body is found. -/
inductive Framing where
  | absent
  | sized (length : Nat)
  | chunked
  | untilClose
  deriving Repr, DecidableEq

/-! ## Framing -/

/-- The parts of a field value between commas. -/
def listItems (value : List Char) : List (List Char) :=
  (splitOn (· == ',') value).map (trimBoth isWhiteSpace)

/-- A field value made of decimal numerals. -/
def numerals? (value : List UInt8) : Option (List Nat) := do
  let text ← valueText? value
  (listItems text).mapM (numeral? 10)

/-- The greatest length of a body. -/
def maxBodyLength : Nat := Nat.pow 2 64 - 3

/-- The one length that all length fields agree on. -/
def agreedLength? (values : List (List UInt8)) : Option Nat := do
  let lengths ← values.mapM numerals?
  match lengths.flatten with
  | [] => none
  | length :: others =>
    if others.all (· == length) && length ≤ maxBodyLength then some length else none

/-- Does the last coding of a message cut it into chunks? -/
def endsInChunks (codings : List (List UInt8)) : Bool :=
  match codings.getLast? with
  | none => false
  | some line =>
    match valueText? line with
    | none => false
    | some text => (listItems text).getLast? == some ("chunked".toList)

/-- A field value in small letters. -/
def lowerValue (value : List UInt8) : List UInt8 :=
  value.map toLowerByte

/-- The framing that a head announces; none if it contradicts itself. Some
statuses have no body, and a coding takes precedence over a length. -/
def Head.framing? (head : Head) : Option Framing :=
  if head.status == 101 || head.status == 204 || head.status == 304 then some .absent
  else
    match valuesOf "transfer-encoding" head.fields, valuesOf "content-length" head.fields with
    | [], [] => some .untilClose
    | [], lengths => (agreedLength? lengths).map .sized
    | codings, _ =>
      if head.version = .http10 then none
      else if endsInChunks (codings.map lowerValue) then some .chunked
      else some .untilClose

/-! ## Chunks -/

/-- The value of a byte that is a hexadecimal digit. -/
def hexByte? (byte : UInt8) : Option Nat :=
  hexValue? (Char.ofNat byte.toNat)

/-- Sizes stay below this bound. -/
def sizeBound : Nat := Nat.pow 2 64

/-- The digits of a size behind those of which `value` is made. -/
def moreSizeDigits (value : Nat) : Reader Nat
  | [] => .unfinished
  | byte :: rest =>
    match hexByte? byte with
    | none => .complete value (byte :: rest)
    | some digit =>
      if value * 16 + digit < sizeBound then moreSizeDigits (value * 16 + digit) rest else .broken

/-- The extensions of all chunks of a body have less bytes than this. -/
def extensionLimit : Nat := 16384

/-- The bytes of an extension, counted on top of those that were spent before. -/
def extensionBytes (spent : Nat) : Reader Nat
  | [] => .unfinished
  | byte :: rest =>
    if byte == carriageReturn then .complete spent (byte :: rest)
    else if byte == lineFeed then .broken
    else if spent + 1 < extensionLimit then extensionBytes (spent + 1) rest
    else .broken

/-- An extension behind a size is passed over. -/
def extension (spent : Nat) : Reader Nat
  | [] => .unfinished
  | byte :: rest =>
    if byte == 0x3B then extensionBytes spent rest else .complete spent (byte :: rest)

/-- The line in front of a chunk: its size, and the bytes that are spent on extensions. -/
def sizeLine (spent : Nat) : Reader (Nat × Nat) := do
  let first ← byteWhere fun byte => (hexByte? byte).isSome
  let size ← moreSizeDigits ((hexByte? first).getD 0)
  let _ ← spanWhere isBlankByte
  let spent ← extension spent
  expect lineBreak
  return (size, spent)

/-! ## Trailing fields -/

/-- What stands behind the last chunk has less bytes than this. -/
def trailerLimit : Nat := 16384

/-- A line that is not empty. -/
def trailerLine : Reader (List UInt8) := do
  let line ← spanWhere (· != carriageReturn)
  expect lineBreak
  return line

/-- At most `limit` lines and the empty line behind them. -/
def trailerLines : Nat → Reader (List (List UInt8))
  | _, [] => .unfinished
  | limit, byte :: rest =>
    if byte == carriageReturn then
      (do expect lineBreak; return [] : Reader (List (List UInt8))) (byte :: rest)
    else
      match limit with
      | 0 => (do let _ ← trailerLine; Reader.fail : Reader (List (List UInt8))) (byte :: rest)
      | limit + 1 =>
        (do
          let line ← trailerLine
          let others ← trailerLines limit
          return line :: others : Reader (List (List UInt8))) (byte :: rest)

/-- Lines and the empty line behind them. -/
def joinLines (lines : List (List UInt8)) : List UInt8 :=
  lines.flatMap (· ++ lineBreak) ++ lineBreak

/-- Do lines read as fields? -/
def areFields (lines : List (List UInt8)) : Bool :=
  match fieldsUpTo lines.length (joinLines lines) with
  | .complete _ _ => true
  | _ => false

/-- May lines stand behind the last chunk? -/
def areTrailers (lines : List (List UInt8)) : Bool :=
  lines.length < maxFields && (joinLines lines).length < trailerLimit && areFields lines

/-- The trailing fields behind the last chunk, which are looked at once they have all
arrived, or none. -/
def trailers : Reader Unit
  | [] => .unfinished
  | byte :: rest =>
    if byte == carriageReturn then expect lineBreak (byte :: rest)
    else
      (do
        let lines ← Reader.within trailerLimit (trailerLines maxFields)
        Reader.ensure (areTrailers lines) : Reader Unit) (byte :: rest)

/-! ## Bodies in chunks -/

/-- The bytes of at most `fuel` chunks, the last of which is empty. -/
def chunksWithin : Nat → Nat → Reader (List UInt8)
  | 0, _ => fun _ => .unfinished
  | fuel + 1, spent => do
    let (size, spent) ← sizeLine spent
    if size = 0 then
      trailers
      return []
    else
      let chunk ← take size
      expect lineBreak
      let others ← chunksWithin fuel spent
      return chunk ++ others

/-- The bytes of a body in chunks; every chunk has at least one byte. -/
def chunks : Reader (List UInt8) := fun bytes =>
  chunksWithin (bytes.length + 1) 0 bytes

/-! ## Arrival -/

/-- What has become of something that was sent, after the last byte that came. -/
inductive Arrival (α : Type) where
  | whole (value : α)
  | awaited
  | lost
  deriving Repr, DecidableEq

/-- What is unfinished is awaited while the connection is held open, and lost
once it is closed. -/
def Reading.arrival {α : Type} (isHeld : Bool) : Reading α → Arrival α
  | .complete value _ => .whole value
  | .unfinished => if isHeld then .awaited else .lost
  | .broken => .lost

/-- The body in the bytes behind a head. -/
def Framing.arrival (isHeld : Bool) (bytes : List UInt8) : Framing → Arrival (List UInt8)
  | .absent => .whole []
  | .sized length => (take length bytes).arrival isHeld
  | .chunked => (chunks bytes).arrival isHeld
  | .untilClose => if isHeld then .awaited else .whole bytes

end PanelBoard.Http
