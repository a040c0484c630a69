import PanelBoard.Text.Digit
import PanelBoard.Text.Utf8

/-!
# Percent-encoding

A byte may be written `%XX` with two hexadecimal digits. Each component of a
URL has its own set of characters that must be written so; everything outside
ASCII always is.
-/

namespace PanelBoard.Url.Percent

open PanelBoard.Text

/-- One byte in its three-character form, in upper case. -/
def encodeByte (b : UInt8) : List Char :=
  ['%', upperHexDigit (b.toNat / 16), upperHexDigit (b.toNat % 16)]

/-- A character as it stands, or the three-character form of each of its bytes. -/
def encodeChar (mustEncode : Char → Bool) (c : Char) : List Char :=
  if 0x80 ≤ c.toNat || mustEncode c then (String.utf8EncodeChar c).flatMap encodeByte else [c]

/-- Encode every character outside ASCII and every one in the set `mustEncode`. -/
def encode (mustEncode : Char → Bool) (cs : List Char) : List Char :=
  cs.flatMap (encodeChar mustEncode)

/-- Bytes with every complete `%XX` replaced by the byte it stands for. A `%`
that begins no such triple stands for itself. -/
def decodeBytes : List UInt8 → List UInt8
  | b :: high :: low :: tail =>
    if b.toNat = 0x25 then
      match hexValue? (Char.ofNat high.toNat), hexValue? (Char.ofNat low.toNat) with
      | some h, some l => UInt8.ofNat (h * 16 + l) :: decodeBytes tail
      | _, _ => b :: decodeBytes (high :: low :: tail)
    else b :: decodeBytes (high :: low :: tail)
  | bs => bs

/-- The bytes meant by a list of characters that may hold encoded bytes. -/
def decode (cs : List Char) : List UInt8 :=
  decodeBytes (Utf8.encode cs)

/-! ## Encode sets -/

/-- Controls: the least set, used for opaque paths and opaque hosts. -/
def isControl (c : Char) : Bool :=
  c.toNat < 0x20 || c.toNat == 0x7F

/-- The set of fragments. -/
def inFragment (c : Char) : Bool :=
  isControl c || [' ', '"', '<', '>', Char.ofNat 0x60].contains c

/-- The set of queries. -/
def inQuery (c : Char) : Bool :=
  isControl c || [' ', '"', '#', '<', '>'].contains c

/-- The set of queries of special schemes. -/
def inSpecialQuery (c : Char) : Bool :=
  inQuery c || c == '\''

/-- The set of path segments. -/
def inPath (c : Char) : Bool :=
  inFragment c || ['#', '?', '{', '}'].contains c

/-- The set of user names and passwords. -/
def inUserinfo (c : Char) : Bool :=
  inPath c || ['/', ':', ';', '=', '@', '[', '\\', ']', '^', '|'].contains c

end PanelBoard.Url.Percent
