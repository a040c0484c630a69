import PanelBoard.Text.Split
import PanelBoard.Text.Unicode.Composition
import PanelBoard.Url.Idna.Bidi
import PanelBoard.Url.Idna.Joining
import PanelBoard.Url.Idna.Mapping
import PanelBoard.Url.Idna.Punycode

/-!
# Domain names in ASCII

`toAscii?` turns a domain name as a person writes it into the name that is
looked up: mapped, composed, checked label by label, and with the labels
outside ASCII coded behind `xn--`. Labels may be empty and of any length.
-/

namespace PanelBoard.Url.Idna

open PanelBoard.Text
open PanelBoard.Text.Unicode

/-- Characters that would end the host or mislead a reader of the URL. -/
def isForbidden (c : Char) : Bool :=
  c.toNat ≤ 0x20 || c.toNat == 0x7F ||
    ['%', '#', '/', ':', '<', '>', '?', '@', '[', '\\', ']', '^', '|'].contains c

/-- Is every character ASCII? -/
def isAscii (cs : List Char) : Bool :=
  cs.all (·.toNat < 0x80)

/-- Apply the mapping to every character; one refused character refuses the name. -/
def mapCharacters : List Char → Option (List Char)
  | [] => some []
  | c :: rest =>
    match fate c with
    | .keep => (mapCharacters rest).map (c :: ·)
    | .leaveOut => mapCharacters rest
    | .replaceBy cs => (mapCharacters rest).map (cs ++ ·)
    | .refuse => none

/-- The composed spelling; ASCII is composed already. -/
def composed (cs : List Char) : List Char :=
  if isAscii cs then cs else compose cs

/-- Beginning of the labels that are coded. -/
def codedMark : List Char := ['x', 'n', '-', '-']

/-- Can a coded label stand for this one? It needs a character outside ASCII,
and the mapping must keep all of it. -/
def isCodable (label : List Char) : Bool :=
  !isAscii label && label.all (fun c => fate c == .keep && !isForbidden c) &&
    compose label == label

/-- The label that a mapped label stands for. -/
def readLabel? (label : List Char) : Option (List Char) :=
  if codedMark.isPrefixOf label then
    if isAscii label then
      (Punycode.decode? (label.drop codedMark.length)).filter isCodable
    else none
  else some label

/-- The checks on one label: no mark in front, and joiners only where they show. -/
def isLabel (label : List Char) : Bool :=
  isAscii label ||
    (!label.head?.any marks.contains && joinersAllowed [] label)

/-- A label as it is looked up. -/
def writeLabel (label : List Char) : List Char :=
  if isAscii label then label else codedMark ++ Punycode.encode label

/-- The name that is looked up for a domain name. -/
def toAscii? (domain : List Char) : Option (List Char) := do
  let mapped := composed (← mapCharacters domain)
  guard (!mapped.any isForbidden)
  let labels ← (splitOn (· == '.') mapped).mapM readLabel?
  guard (labels.all isLabel)
  guard (!labels.any isBidirectional || labels.all keepsBidiRule)
  return joinWith ['.'] (labels.map writeLabel)

end PanelBoard.Url.Idna
