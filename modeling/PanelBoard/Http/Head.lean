import PanelBoard.Http.Reading
import PanelBoard.Text.Digit

/-!
# Heads of messages

The status line and the fields in front of a body, as they stand on a
connection. Field names are compared without regard to case. A head is limited in
its length, in the number of its fields and in the length of their names.
-/

namespace PanelBoard.Http

open PanelBoard.Text

/-! ## Byte classes -/

/-- A digit. -/
def isDigit (byte : UInt8) : Bool :=
  0x30 ≤ byte && byte ≤ 0x39

/-- A letter or digit. -/
def isAlphanumeric (byte : UInt8) : Bool :=
  isDigit byte || (0x41 ≤ byte && byte ≤ 0x5A) || (0x61 ≤ byte && byte ≤ 0x7A)

/-- Bytes of field names and methods: letters, digits and some punctuation. -/
def isTokenByte (byte : UInt8) : Bool :=
  isAlphanumeric byte || (ascii "!#$%&*+-.^_|~").contains byte || byte == 0x27 || byte == 0x60

/-- A space or a tab. -/
def isBlankByte (byte : UInt8) : Bool :=
  byte == 0x20 || byte == 0x09

/-- Bytes of field values: no control character but the tab. -/
def isValueByte (byte : UInt8) : Bool :=
  byte == 0x09 || (0x20 ≤ byte && byte != 0x7F)

/-- Can bytes stand as a field value? -/
def isFieldValue (bytes : List UInt8) : Bool :=
  bytes.all isValueByte

/-! ## Fields -/

/-- A field; its name is in small letters. -/
structure Field where
  name : List UInt8
  value : List UInt8
  deriving Repr, DecidableEq

/-- A byte in small letters. -/
def toLowerByte (byte : UInt8) : UInt8 :=
  if 0x41 ≤ byte && byte ≤ 0x5A then byte + 0x20 else byte

/-- Remove the blanks at the end. -/
def trimEndBlank (bytes : List UInt8) : List UInt8 :=
  (bytes.reverse.dropWhile isBlankByte).reverse

/-- One line of a head. -/
def field : Reader Field := do
  let first ← byteWhere isTokenByte
  let more ← spanWhere isTokenByte
  expect [0x3A]
  let _ ← spanWhere isBlankByte
  let value ← spanWhere isValueByte
  lineEnd
  return { name := (first :: more).map toLowerByte, value := trimEndBlank value }

/-- The greatest number of fields in a head. -/
def maxFields : Nat := 100

/-- At most `limit` fields and the empty line behind them. -/
def fieldsUpTo : Nat → Reader (List Field)
  | 0, bytes => (do lineEnd; return [] : Reader (List Field)) bytes
  | _ + 1, [] => .unfinished
  | limit + 1, byte :: rest =>
    if byte == carriageReturn || byte == lineFeed then
      (do lineEnd; return [] : Reader (List Field)) (byte :: rest)
    else
      (do
        let first ← field
        let others ← fieldsUpTo limit
        return first :: others : Reader (List Field)) (byte :: rest)

/-- The values of the fields of a name. -/
def valuesOf (name : String) (fields : List Field) : List (List UInt8) :=
  (fields.filter (·.name == ascii name)).map Field.value

/-- The text of a field value that holds no byte outside ASCII. -/
def valueText? (value : List UInt8) : Option (List Char) :=
  if value.all (· < 0x7F) then some (value.map fun byte => Char.ofNat byte.toNat) else none

/-! ## Status lines -/

/-- The two versions that are spoken. -/
inductive Version where
  | http10
  | http11
  deriving Repr, DecidableEq

/-- The head of a reply. -/
structure Head where
  version : Version
  status : Nat
  fields : List Field
  deriving Repr, DecidableEq

/-- Empty lines before a status line are passed over. -/
def skipEmptyLines : Reader Unit
  | [] => .unfinished
  | [byte] =>
    if byte == carriageReturn || byte == lineFeed then .unfinished else .complete () [byte]
  | byte :: next :: rest =>
    if byte == lineFeed then skipEmptyLines (next :: rest)
    else if byte == carriageReturn then
      if next == lineFeed then skipEmptyLines rest else .broken
    else .complete () (byte :: next :: rest)

/-- The version at the front of a status line. -/
def version : Reader Version := do
  expect (ascii "HTTP/1.")
  let minor ← byteWhere fun byte => byte == 0x30 || byte == 0x31
  return if minor == 0x31 then .http11 else .http10

/-- A status of three digits. -/
def statusCode : Reader Nat := do
  let hundreds ← byteWhere isDigit
  let tens ← byteWhere isDigit
  let ones ← byteWhere isDigit
  return (hundreds.toNat - 0x30) * 100 + (tens.toNat - 0x30) * 10 + (ones.toNat - 0x30)

/-- The rest of a status line: a reason behind a space, or nothing. -/
def reason : Reader Unit
  | [] => .unfinished
  | byte :: rest =>
    if byte == 0x20 then
      (do let _ ← spanWhere isValueByte; lineEnd : Reader Unit) rest
    else lineEnd (byte :: rest)

/-- The least status. -/
def minStatus : Nat := 100

/-- The greatest length of the name of a field. -/
def maxNameLength : Nat := 65535

/-- The greatest length of a head: what is still unfinished then is given up. -/
def maxHeadLength : Nat := 417792

/-- A status line and its fields, however long. -/
def headLines : Reader Head := do
  skipEmptyLines
  let version ← version
  expect [0x20]
  let status ← statusCode
  reason
  let fields ← fieldsUpTo maxFields
  Reader.ensure (minStatus ≤ status && fields.all (·.name.length ≤ maxNameLength))
  return { version, status, fields }

/-- A status line and its fields. -/
def head : Reader Head :=
  headLines.within maxHeadLength

/-- An interim head announces a later one; the switch of protocols is final. -/
def Head.isInterim (head : Head) : Bool :=
  head.status < 200 && head.status != 101

/-- The first head that is not interim. -/
def finalHeadWithin : Nat → Reader Head
  | 0 => fun _ => .unfinished
  | fuel + 1 => do
    let first ← head
    if first.isInterim then finalHeadWithin fuel else return first

/-- The first head that is not interim; every head has at least one byte. -/
def finalHead : Reader Head := fun bytes =>
  finalHeadWithin (bytes.length + 1) bytes

end PanelBoard.Http
