import PanelBoard.Json.Value
import PanelBoard.Text.Digit

/-!
# Reading JSON

A reader for JSON documents with whole numbers, nested below a fixed depth.
Fractions and exponents are not numbers here, and a string that ends half of a
surrogate pair is no string.
-/

namespace PanelBoard.Json

open PanelBoard.Text

/-- Takes an object off the front of a text. -/
abbrev Reader (α : Type) := List Char → Option (α × List Char)

/-- Skip blanks and line ends. -/
def skipSpace (cs : List Char) : List Char :=
  cs.dropWhile (fun c => c == ' ' || c == '\t' || c == '\n' || c == '\r')

/-- A number of four hexadecimal digits. -/
def unit? : Reader Nat
  | a :: b :: c :: d :: rest => (numeral? 16 [a, b, c, d]).map fun value => (value, rest)
  | _ => none

/-- The character meant by the code units behind `\u`: one, or a surrogate pair. -/
def unicodeEscape? (cs : List Char) : Option (Char × List Char) := do
  let (first, rest) ← unit? cs
  if first < 0xD800 || 0xE000 ≤ first then return (Char.ofNat first, rest)
  else
    match rest with
    | '\\' :: 'u' :: rest =>
      let (second, rest) ← unit? rest
      guard (first < 0xDC00 && 0xDC00 ≤ second && second < 0xE000)
      return (Char.ofNat (0x10000 + (first - 0xD800) * 0x400 + (second - 0xDC00)), rest)
    | _ => none

/-- The character meant by an escape, from behind the backslash. -/
def escape? : Reader Char
  | '"' :: rest => some ('"', rest)
  | '\\' :: rest => some ('\\', rest)
  | '/' :: rest => some ('/', rest)
  | 'b' :: rest => some ('\x08', rest)
  | 'f' :: rest => some ('\x0c', rest)
  | 'n' :: rest => some ('\n', rest)
  | 'r' :: rest => some ('\r', rest)
  | 't' :: rest => some ('\t', rest)
  | 'u' :: rest => unicodeEscape? rest
  | _ => none

/-- The rest of a string, from behind its quotation mark; `read` holds the
characters read so far, the last one first. -/
def stringFrom? (read : List Char) : Nat → Reader String
  | 0, _ => none
  | _ + 1, [] => none
  | _ + 1, '"' :: rest => some (String.ofList read.reverse, rest)
  | fuel + 1, '\\' :: rest =>
    match escape? rest with
    | some (c, rest) => stringFrom? (c :: read) fuel rest
    | none => none
  | fuel + 1, c :: rest => if c.toNat < 0x20 then none else stringFrom? (c :: read) fuel rest

/-- A string, from behind its quotation mark. -/
def string? (cs : List Char) : Option (String × List Char) :=
  stringFrom? [] (cs.length + 1) cs

/-- Digits without a leading zero, unless zero is all. -/
def digits? (cs : List Char) : Option (Nat × List Char) :=
  let digits := cs.takeWhile Char.isDigit
  let isPadded := digits.head? == some '0' && 1 < digits.length
  if isPadded then none
  else (numeral? 10 digits).map fun value => (value, cs.drop digits.length)

/-- A whole number. -/
def number? : Reader Int
  | '-' :: rest => (digits? rest).map fun (value, rest) => (-(value : Int), rest)
  | cs => (digits? cs).map fun (value, rest) => ((value : Int), rest)

/-- What follows a given word. -/
def dropWord? (word cs : List Char) : Option (List Char) :=
  if word.isPrefixOf cs then some (cs.drop word.length) else none

/-- A value without parts. -/
def scalar? (cs : List Char) : Option (Value × List Char) :=
  match cs with
  | '"' :: rest => (string? rest).map fun (text, rest) => (.text text, rest)
  | 'n' :: _ => (dropWord? ['n', 'u', 'l', 'l'] cs).map fun rest => (.null, rest)
  | 't' :: _ => (dropWord? ['t', 'r', 'u', 'e'] cs).map fun rest => (.boolean true, rest)
  | 'f' :: _ => (dropWord? ['f', 'a', 'l', 's', 'e'] cs).map fun rest => (.boolean false, rest)
  | _ => (number? cs).map fun (value, rest) => (.number value, rest)

/-- The elements of a list, from where one must begin, up to the bracket. -/
def elements? (element : Reader Value) : Nat → Reader (List Value)
  | 0, _ => none
  | fuel + 1, cs => do
    let (first, rest) ← element cs
    match skipSpace rest with
    | ',' :: rest =>
      let (others, rest) ← elements? element fuel rest
      return (first :: others, rest)
    | ']' :: rest => return ([first], rest)
    | _ => none

/-- The members of an object, from where one must begin, up to the brace. -/
def members? (element : Reader Value) : Nat → Reader (List (String × Value))
  | 0, _ => none
  | fuel + 1, cs => do
    match skipSpace cs with
    | '"' :: rest =>
      let (key, rest) ← string? rest
      match skipSpace rest with
      | ':' :: rest =>
        let (value, rest) ← element rest
        match skipSpace rest with
        | ',' :: rest =>
          let (others, rest) ← members? element fuel rest
          return ((key, value) :: others, rest)
        | '}' :: rest => return ([(key, value)], rest)
        | _ => none
      | _ => none
    | _ => none

/-- A value whose parts are at most `depth` deep. -/
def value? : Nat → Reader Value
  | 0, cs => scalar? (skipSpace cs)
  | depth + 1, cs =>
    match skipSpace cs with
    | '[' :: rest =>
      match skipSpace rest with
      | ']' :: rest => some (.list [], rest)
      | rest =>
        (elements? (value? depth) (rest.length + 1) rest).map fun (values, rest) =>
          (.list values, rest)
    | '{' :: rest =>
      match skipSpace rest with
      | '}' :: rest => some (.object [], rest)
      | rest =>
        (members? (value? depth) (rest.length + 1) rest).map fun (members, rest) =>
          (.object members, rest)
    | cs => scalar? cs

/-- Values nest at most this deep. -/
def nestingLimit : Nat := 127

/-- The value of a document. -/
def parse? (text : String) : Option Value := do
  let (value, rest) ← value? nestingLimit text.toList
  if (skipSpace rest).isEmpty then some value else none

end PanelBoard.Json
