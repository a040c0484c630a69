import PanelBoard.Http.Body

/-!
# Writing replies

Replies with a body in each of the three framings, as a server puts them on a
connection. Where the head ends and where the body ends can be read off them
again.
-/

namespace PanelBoard.Http

open PanelBoard.Text

/-- The bytes of a numeral. -/
def numeralBytes (digits : List Char) : List UInt8 :=
  digits.map fun c => UInt8.ofNat c.toNat

/-- A status line. -/
def writeStatusLine (status : Nat) : List UInt8 :=
  ascii "HTTP/1.1 " ++ numeralBytes (decimal status) ++ ascii " " ++ lineBreak

/-- A field. -/
def writeField (name : String) (value : List UInt8) : List UInt8 :=
  ascii name ++ ascii ": " ++ value ++ lineBreak

/-- A chunk: its size in hexadecimal, and its bytes. -/
def writeChunk (chunk : List UInt8) : List UInt8 :=
  numeralBytes (lowerHex chunk.length) ++ lineBreak ++ chunk ++ lineBreak

/-- A body in chunks, and the empty chunk that ends it. -/
def writeChunks (parts : List (List UInt8)) : List UInt8 :=
  parts.flatMap writeChunk ++ numeralBytes (lowerHex 0) ++ lineBreak ++ lineBreak

/-- The head of a reply whose body has a given length. -/
def sizedHead (status length : Nat) : List UInt8 :=
  writeStatusLine status ++ writeField "content-length" (numeralBytes (decimal length)) ++
    lineBreak

/-- A reply whose body has a given length. -/
def sizedReply (status : Nat) (body : List UInt8) : List UInt8 :=
  sizedHead status body.length ++ body

/-- The head of a reply whose body comes in chunks. -/
def chunkedHead (status : Nat) : List UInt8 :=
  writeStatusLine status ++ writeField "transfer-encoding" (ascii "chunked") ++ lineBreak

/-- A reply whose body comes in chunks. -/
def chunkedReply (status : Nat) (parts : List (List UInt8)) : List UInt8 :=
  chunkedHead status ++ writeChunks parts

/-- A reply whose body ends where the connection is closed. -/
def openEndedReply (status : Nat) (body : List UInt8) : List UInt8 :=
  writeStatusLine status ++ lineBreak ++ body

end PanelBoard.Http
