import PanelBoard.Text.Split
import PanelBoard.Toml.Value

/-!
# Reading TOML strings, keys and numbers

A reader takes its object off the front of a text and answers it together with
what follows, or refuses the text.
-/

namespace PanelBoard.Toml

open PanelBoard.Text
open PanelBoard.Number

/-- Takes an object off the front of a text. -/
abbrev Reader (α : Type) := List Char → Option (α × List Char)

/-- What follows a given beginning. -/
def dropExactly? (beginning : List Char) (cs : List Char) : Option (List Char) :=
  if beginning.isPrefixOf cs then some (cs.drop beginning.length) else none

/-! ## Blanks, comments and line ends -/

/-- Blanks within a line. -/
def isBlank (c : Char) : Bool :=
  c == ' ' || c == '\t'

/-- Skip blanks within a line. -/
def skipBlanks (cs : List Char) : List Char :=
  cs.dropWhile isBlank

/-- May the character stand in a comment? -/
def isCommentChar (c : Char) : Bool :=
  c == '\t' || (0x20 ≤ c.toNat && c.toNat != 0x7F)

/-- What follows a line end. -/
def lineEnd? : List Char → Option (List Char)
  | '\n' :: rest => some rest
  | '\r' :: '\n' :: rest => some rest
  | _ => none

/-- What follows the rest of a line that may only hold blanks and a comment. The
last line needs no line end. -/
def lineRest? (cs : List Char) : Option (List Char) :=
  let afterComment :=
    match skipBlanks cs with
    | '#' :: rest => rest.dropWhile isCommentChar
    | rest => rest
  match afterComment with
  | [] => some []
  | rest => lineEnd? rest

/-- Skip blanks, comments and line ends between the elements of an array. A
comment must be ended. -/
def skipLines : Nat → List Char → Option (List Char)
  | 0, _ => none
  | fuel + 1, cs =>
    match skipBlanks cs with
    | '#' :: rest => (lineEnd? (rest.dropWhile isCommentChar)).bind (skipLines fuel)
    | '\n' :: rest => skipLines fuel rest
    | '\r' :: rest => (lineEnd? ('\r' :: rest)).bind (skipLines fuel)
    | rest => some rest

/-! ## Strings -/

/-- May the character stand for itself in a one-line basic string? -/
def isBasicChar (c : Char) : Bool :=
  isCommentChar c && c != '"' && c != '\\'

/-- May the character stand in a one-line literal string? -/
def isLiteralChar (c : Char) : Bool :=
  isCommentChar c && c != '\''

/-- The character with a code of exactly `count` hexadecimal digits. -/
def codePoint? (count : Nat) : Reader Char := fun cs => do
  let digits := cs.take count
  guard (digits.length = count)
  let code ← numeral? 16 digits
  guard (code < 0xD800 || (0xE000 ≤ code && code < 0x110000))
  return (Char.ofNat code, cs.drop count)

/-- The character meant by an escape, from behind the backslash. -/
def escape? : Reader Char
  | 'b' :: rest => some ('\x08', rest)
  | 't' :: rest => some ('\t', rest)
  | 'n' :: rest => some ('\n', rest)
  | 'f' :: rest => some ('\x0c', rest)
  | 'r' :: rest => some ('\r', rest)
  | '"' :: rest => some ('"', rest)
  | '\\' :: rest => some ('\\', rest)
  | 'u' :: rest => codePoint? 4 rest
  | 'U' :: rest => codePoint? 8 rest
  | _ => none

/-- A one-line basic string, from behind its quotation mark. -/
def basicString? : Nat → Reader (List Char)
  | 0, _ => none
  | _ + 1, [] => none
  | _ + 1, '"' :: rest => some ([], rest)
  | fuel + 1, '\\' :: rest => do
    let (c, rest) ← escape? rest
    let (cs, rest) ← basicString? fuel rest
    return (c :: cs, rest)
  | fuel + 1, c :: rest =>
    if isBasicChar c then (basicString? fuel rest).map fun (cs, rest) => (c :: cs, rest)
    else none

/-- A one-line literal string, from behind its apostrophe. -/
def literalString? (cs : List Char) : Option (List Char × List Char) :=
  match cutBefore (fun c => !isLiteralChar c) cs with
  | (text, '\'' :: rest) => some (text, rest)
  | _ => none

/-- Marks that close a multi-line string: three of them close it, and up to two
more in front of these belong to the text. -/
def closingMarks (mark : Char) (cs : List Char) : Nat × List Char :=
  let marks := cs.takeWhile (· == mark)
  (marks.length, cs.drop marks.length)

/-- What follows a backslash at the end of a line: blanks and line ends are skipped. -/
def lineContinuation? (cs : List Char) : Option (List Char) :=
  (lineEnd? (skipBlanks cs)).map skipContinuation
where
  /-- Skip blanks and line ends. -/
  skipContinuation : List Char → List Char
    | ' ' :: rest => skipContinuation rest
    | '\t' :: rest => skipContinuation rest
    | '\n' :: rest => skipContinuation rest
    | '\r' :: '\n' :: rest => skipContinuation rest
    | rest => rest

/-- A multi-line string, from behind its three marks and the first line end.
Line ends are read as line feeds; escapes are read where `hasEscapes` says so. -/
def multiLineString? (mark : Char) (hasEscapes : Bool) : Nat → Reader (List Char)
  | 0, _ => none
  | fuel + 1, cs =>
    match closingMarks mark cs with
    | (0, []) => none
    | (0, c :: rest) =>
      if c == '\\' && hasEscapes then
        match lineContinuation? rest with
        | some rest => multiLineString? mark hasEscapes fuel rest
        | none => do
          let (escaped, rest) ← escape? rest
          let (cs, rest) ← multiLineString? mark hasEscapes fuel rest
          return (escaped :: cs, rest)
      else if isCommentChar c then
        (multiLineString? mark hasEscapes fuel rest).map fun (cs, rest) => (c :: cs, rest)
      else
        match lineEnd? (c :: rest) with
        | none => none
        | some rest =>
          (multiLineString? mark hasEscapes fuel rest).map fun (cs, rest) => ('\n' :: cs, rest)
    | (count, rest) =>
      if count < 3 then
        (multiLineString? mark hasEscapes fuel rest).map fun (cs, rest) =>
          (List.replicate count mark ++ cs, rest)
      else if count ≤ 5 then some (List.replicate (count - 3) mark, rest)
      else none

/-- A multi-line string, from behind its three marks. -/
def multiLine? (mark : Char) (hasEscapes : Bool) (cs : List Char) :
    Option (List Char × List Char) :=
  let cs := (lineEnd? cs).getD cs
  multiLineString? mark hasEscapes (cs.length + 1) cs

/-- A string of any of the four kinds. -/
def string? : Reader (List Char)
  | '"' :: '"' :: '"' :: rest => multiLine? '"' true rest
  | '"' :: rest => basicString? (rest.length + 1) rest
  | '\'' :: '\'' :: '\'' :: rest => multiLine? '\'' false rest
  | '\'' :: rest => literalString? rest
  | _ => none

/-! ## Keys -/

/-- May the character stand in a key without quotes? -/
def isBareKeyChar (c : Char) : Bool :=
  c.isAlphanum || c == '-' || c == '_'

/-- One key: bare, or a one-line string. -/
def simpleKey? : Reader String
  | '"' :: rest =>
    (basicString? (rest.length + 1) rest).map fun (cs, rest) => (String.ofList cs, rest)
  | '\'' :: rest => (literalString? rest).map fun (cs, rest) => (String.ofList cs, rest)
  | cs =>
    match cutBefore (fun c => !isBareKeyChar c) cs with
    | ([], _) => none
    | (key, rest) => some (String.ofList key, rest)

/-- Keys with dots between them, and the blanks around each. -/
def keys? : Nat → Reader (List String)
  | 0, _ => none
  | fuel + 1, cs => do
    let (key, rest) ← simpleKey? (skipBlanks cs)
    match skipBlanks rest with
    | '.' :: rest =>
      let (keys, rest) ← keys? fuel rest
      return (key :: keys, rest)
    | rest => return ([key], rest)

/-- The deepest nesting that is accepted stays below this. -/
def nestingLimit : Nat := 80

/-- A dotted key, which nests as deep as it has parts. -/
def dottedKey? (cs : List Char) : Option (List String × List Char) := do
  let (keys, rest) ← keys? (cs.length + 1) cs
  guard (keys.length < nestingLimit)
  return (keys, rest)

/-! ## Numbers -/

/-- Digits with single underscores between them, and what follows. The text must
not go on with an underscore. -/
def digitRun? (isDigit : Char → Bool) (cs : List Char) : Option (List Char × List Char) :=
  let (run, rest) := cutBefore (fun c => !(isDigit c || c == '_')) cs
  let groups := splitOn (· == '_') run
  if groups.all (!·.isEmpty) then some (groups.flatten, rest) else none

/-- A sign, if there is one: is it a minus, and what follows. -/
def takeSign : List Char → Bool × List Char
  | '+' :: rest => (false, rest)
  | '-' :: rest => (true, rest)
  | cs => (false, cs)

/-- Whole digits of a decimal number: a leading zero stands alone. -/
def wholeDigits? : List Char → Option (List Char × List Char)
  | '0' :: rest => some (['0'], rest)
  | cs => digitRun? Char.isDigit cs

/-- A number with a value of the integer type. -/
def integerValue? (isNegative : Bool) (base : Nat) (digits : List Char) : Option Value := do
  let magnitude ← numeral? base digits
  let value : Int := if isNegative then -magnitude else magnitude
  guard (isInteger value)
  return .integer value

/-- An integer with the digits of a base, from behind its mark. -/
def basedInteger? (base : Nat) (cs : List Char) : Option (Value × List Char) := do
  let (digits, rest) ← digitRun? (fun c => (digitValue? base c).isSome) cs
  let value ← integerValue? false base digits
  return (value, rest)

/-- The exponent of a float, if there is one; a mark for it must be followed by digits. -/
def exponent? : List Char → Option (Option Int × List Char)
  | c :: rest =>
    if c == 'e' || c == 'E' then do
      let (isNegative, rest) := takeSign rest
      let (digits, rest) ← digitRun? Char.isDigit rest
      let magnitude ← numeral? 10 digits
      let value : Int := if isNegative then -magnitude else magnitude
      return (some value, rest)
    else some (none, c :: rest)
  | [] => some (none, [])

/-- The fraction digits of a float, if there are any; a point must be followed by digits. -/
def fraction? : List Char → Option (Option (List Char) × List Char)
  | '.' :: rest => (digitRun? Char.isDigit rest).map fun (digits, rest) => (some digits, rest)
  | cs => some (none, cs)

/-- A decimal integer or a float. A float that is too great is refused, while
one that is too small a negative number is minus infinity. -/
def decimalNumber? (cs : List Char) : Option (Value × List Char) := do
  let (isNegative, afterSign) := takeSign cs
  let (whole, rest) ← wholeDigits? afterSign
  let (fraction, rest) ← fraction? rest
  let (exponent, rest) ← exponent? rest
  match fraction, exponent with
  | none, none =>
    let value ← integerValue? isNegative 10 whole
    return (value, rest)
  | _, _ =>
    let places := fraction.getD []
    let number := Binary64.ofDecimal isNegative (whole ++ places)
      (exponent.getD 0 - places.length)
    guard (number != .infinite false)
    return (.float number, rest)

/-- The floats that are no numerals. -/
def specialFloat? (cs : List Char) : Option (Value × List Char) :=
  let (isNegative, rest) := takeSign cs
  match dropExactly? ['i', 'n', 'f'] rest with
  | some rest => some (.float (.infinite isNegative), rest)
  | none => (dropExactly? ['n', 'a', 'n'] rest).map fun rest => (.float .nan, rest)

/-- A number. -/
def number? : Reader Value
  | '0' :: 'x' :: rest => basedInteger? 16 rest
  | '0' :: 'o' :: rest => basedInteger? 8 rest
  | '0' :: 'b' :: rest => basedInteger? 2 rest
  | cs =>
    match specialFloat? cs with
    | some found => some found
    | none => decimalNumber? cs

/-! ## Dates and times -/

/-- A number of exactly `count` digits within bounds. -/
def fixedDigits? (count low high : Nat) : Reader Nat := fun cs => do
  let digits := cs.take count
  guard (digits.length = count && digits.all Char.isDigit)
  let value ← numeral? 10 digits
  guard (low ≤ value && value ≤ high)
  return (value, cs.drop count)

/-- The number of days of a month. -/
def daysIn (year month : Nat) : Nat :=
  let isLeap := year % 4 = 0 && (year % 100 != 0 || year % 400 = 0)
  if month = 2 then (if isLeap then 29 else 28)
  else if [4, 6, 9, 11].contains month then 30
  else 31

/-- What follows a date. -/
def date? (cs : List Char) : Option (List Char) := do
  let (year, rest) ← fixedDigits? 4 0 9999 cs
  let rest ← dropExactly? ['-'] rest
  let (month, rest) ← fixedDigits? 2 1 12 rest
  let rest ← dropExactly? ['-'] rest
  let (_, rest) ← fixedDigits? 2 1 (daysIn year month) rest
  return rest

/-- What follows a time of day. A leap second is a second. -/
def time? (cs : List Char) : Option (List Char) := do
  let (_, rest) ← fixedDigits? 2 0 23 cs
  let rest ← dropExactly? [':'] rest
  let (_, rest) ← fixedDigits? 2 0 59 rest
  let rest ← dropExactly? [':'] rest
  let (_, rest) ← fixedDigits? 2 0 60 rest
  match rest with
  | '.' :: c :: rest => if c.isDigit then some (rest.dropWhile Char.isDigit) else none
  | '.' :: [] => none
  | _ => some rest

/-- What follows the offset from universal time, if there is one. -/
def offset? : List Char → Option (List Char)
  | c :: rest =>
    if c == 'Z' || c == 'z' then some rest
    else if c == '+' || c == '-' then do
      let (_, rest) ← fixedDigits? 2 0 23 rest
      let rest ← dropExactly? [':'] rest
      let (_, rest) ← fixedDigits? 2 0 59 rest
      return rest
    else some (c :: rest)
  | [] => some []

/-- Does a time begin here, with its hour and its colon? -/
def startsTime (cs : List Char) : Bool :=
  match fixedDigits? 2 0 23 cs with
  | some (_, ':' :: _) => true
  | _ => false

/-- What follows a date, a time, or both with an offset perhaps. -/
def dateTimeRest? (cs : List Char) : Option (List Char) :=
  match date? cs with
  | some rest =>
    match rest with
    | delimiter :: afterDelimiter =>
      if ['T', 't', ' '].contains delimiter && startsTime afterDelimiter then
        (time? afterDelimiter).bind offset?
      else some rest
    | [] => some []
  | none => time? cs

/-- A date or time. -/
def dateTime? (cs : List Char) : Option (Value × List Char) :=
  (dateTimeRest? cs).map fun rest =>
    (.dateTime (String.ofList (cs.take (cs.length - rest.length))), rest)

/-! ## Values without parts -/

/-- A string, a number, a date or a truth value. -/
def scalar? (cs : List Char) : Option (Value × List Char) :=
  match string? cs with
  | some (text, rest) => some (.text (String.ofList text), rest)
  | none =>
    match dropExactly? ['t', 'r', 'u', 'e'] cs with
    | some rest => some (.boolean true, rest)
    | none =>
      match dropExactly? ['f', 'a', 'l', 's', 'e'] cs with
      | some rest => some (.boolean false, rest)
      | none =>
        match dateTime? cs with
        | some found => some found
        | none => number? cs

end PanelBoard.Toml
