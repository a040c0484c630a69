/-!
# Reading what a connection has sent

A reader takes bytes off the front of what has arrived so far. Besides a value
or a refusal it may find the bytes unfinished, when more of them could decide.
-/

namespace PanelBoard.Http

/-- What a reader made of the bytes so far. -/
inductive Reading (α : Type) where
  | complete (value : α) (rest : List UInt8)
  | unfinished
  | broken
  deriving Repr, DecidableEq

/-- Takes a value off the front of the bytes. -/
def Reader (α : Type) := List UInt8 → Reading α

namespace Reader

/-- Go on with another reader behind a value. -/
def andThen {α β : Type} (reader : Reader α) (next : α → Reader β) : Reader β := fun bytes =>
  match reader bytes with
  | .complete value rest => next value rest
  | .unfinished => .unfinished
  | .broken => .broken

instance : Monad Reader where
  pure value := .complete value
  bind := andThen

/-- A reader that refuses. -/
def fail {α : Type} : Reader α := fun _ => .broken

/-- A reader that only goes on where a condition holds. -/
def ensure (holds : Bool) : Reader Unit :=
  if holds then pure () else fail

/-- A reader that looks at no more than `limit` bytes, and refuses if they leave it
unfinished. -/
def within {α : Type} (limit : Nat) (reader : Reader α) : Reader α := fun bytes =>
  match reader (bytes.take limit) with
  | .complete value rest => .complete value (rest ++ bytes.drop limit)
  | .unfinished => if limit ≤ bytes.length then .broken else .unfinished
  | .broken => .broken

/-- The second reader starts where the first one stopped. -/
theorem bind_complete {α β : Type} {reader : Reader α} {next : α → Reader β}
    {bytes rest : List UInt8} {value : α} (first : reader bytes = .complete value rest) :
    (reader >>= next) bytes = next value rest := by
  change andThen reader next bytes = _
  simp [andThen, first]

end Reader

/-! ## Bytes -/

/-- The bytes of an ASCII text. -/
def ascii (text : String) : List UInt8 :=
  text.toList.map fun c => UInt8.ofNat c.toNat

/-- Carriage return. -/
def carriageReturn : UInt8 := 0x0D

/-- Line feed. -/
def lineFeed : UInt8 := 0x0A

/-- Carriage return and line feed. -/
def lineBreak : List UInt8 := [carriageReturn, lineFeed]

/-- One byte of a class. -/
def byteWhere (accepts : UInt8 → Bool) : Reader UInt8
  | [] => .unfinished
  | byte :: rest => if accepts byte then .complete byte rest else .broken

/-- The bytes of a class up to the first one outside it, which must have arrived. -/
def spanWhere (accepts : UInt8 → Bool) : Reader (List UInt8)
  | [] => .unfinished
  | byte :: rest =>
    if accepts byte then
      match spanWhere accepts rest with
      | .complete more rest => .complete (byte :: more) rest
      | other => other
    else .complete [] (byte :: rest)

/-- Given bytes. -/
def expect : List UInt8 → Reader Unit
  | [] => pure ()
  | byte :: more => do
    let _ ← byteWhere (· == byte)
    expect more

/-- A number of bytes. -/
def take (count : Nat) : Reader (List UInt8) := fun bytes =>
  if count ≤ bytes.length then .complete (bytes.take count) (bytes.drop count) else .unfinished

/-- The end of a line: a line feed, with or without a carriage return before it. -/
def lineEnd : Reader Unit := do
  let byte ← byteWhere fun byte => byte == carriageReturn || byte == lineFeed
  if byte == carriageReturn then expect [lineFeed] else pure ()

/-- Given bytes are read off the front of themselves. -/
theorem expect_append (bytes rest : List UInt8) :
    expect bytes (bytes ++ rest) = .complete () rest := by
  induction bytes with
  | nil => rfl
  | cons byte more ih =>
    have first : byteWhere (· == byte) (byte :: (more ++ rest)) =
        .complete byte (more ++ rest) := by simp [byteWhere]
    rw [List.cons_append, expect, Reader.bind_complete first, ih]

/-- Bytes are taken off the front of whatever follows them. -/
theorem take_append (bytes rest : List UInt8) :
    take bytes.length (bytes ++ rest) = .complete bytes rest := by
  simp [take]

/-- A span ends at the first byte outside its class. -/
theorem spanWhere_append {accepts : UInt8 → Bool} {bytes rest : List UInt8} {stop : UInt8}
    (inside : ∀ byte ∈ bytes, accepts byte = true) (outside : accepts stop = false) :
    spanWhere accepts (bytes ++ stop :: rest) = .complete bytes (stop :: rest) := by
  induction bytes with
  | nil => simp [spanWhere, outside]
  | cons byte more ih =>
    have later := ih fun b member => inside b (by simp [member])
    simp [spanWhere, inside byte (by simp), later]

end PanelBoard.Http
