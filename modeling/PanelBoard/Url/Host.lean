import PanelBoard.Text.Utf8
import PanelBoard.Url.Idna.Domain
import PanelBoard.Url.Ipv4
import PanelBoard.Url.Ipv6
import PanelBoard.Url.Percent

/-!
# Hosts

The host of a URL: a domain name, an IPv4 or an IPv6 address. Schemes that are
not special have opaque hosts, kept as written but for encoded controls.
-/

namespace PanelBoard.Url

open PanelBoard.Text

/-- Why a text is no URL. -/
inductive ParseError where
  | emptyHost
  | invalidDomainName
  | invalidPort
  | invalidIpv4Address
  | invalidIpv6Address
  | invalidDomainCharacter
  | relativeWithoutBase
  | relativeWithOpaqueBase
  deriving Repr, DecidableEq

/-- The wording of each cause. -/
def ParseError.message : ParseError → String
  | .emptyHost => "empty host"
  | .invalidDomainName => "invalid international domain name"
  | .invalidPort => "invalid port number"
  | .invalidIpv4Address => "invalid IPv4 address"
  | .invalidIpv6Address => "invalid IPv6 address"
  | .invalidDomainCharacter => "invalid domain character"
  | .relativeWithoutBase => "relative URL without a base"
  | .relativeWithOpaqueBase => "relative URL with a cannot-be-a-base base"

/-- The host of a URL. An opaque host, also the empty one, is a `name`. -/
inductive Host where
  | name (text : List Char)
  | ipv4 (address : Nat)
  | ipv6 (pieces : List Nat)
  deriving Repr, DecidableEq

namespace Host

/-- The host as it stands in a URL. -/
def render : Host → List Char
  | .name text => text
  | .ipv4 address => Ipv4.render address
  | .ipv6 pieces => '[' :: Ipv6.render pieces ++ [']']

/-- The address written inside brackets. -/
def parseBracketed (cs : List Char) : Except ParseError Host :=
  if cs.getLast? = some ']' then
    match Ipv6.parse? cs.dropLast with
    | some pieces => .ok (.ipv6 pieces)
    | none => .error .invalidIpv6Address
  else .error .invalidIpv6Address

/-- The host written by a name without brackets. -/
def parseName (cs : List Char) : Except ParseError Host :=
  match (Utf8.decode? (Percent.decode cs)).bind Idna.toAscii? with
  | none => .error .invalidDomainName
  | some [] => .error .emptyHost
  | some domain =>
    if Ipv4.endsInNumber domain then
      match Ipv4.parse? domain with
      | some address => .ok (.ipv4 address)
      | none => .error .invalidIpv4Address
    else .ok (.name domain)

/-- The host of a special URL. -/
def parse : List Char → Except ParseError Host
  | '[' :: rest => parseBracketed rest
  | cs => parseName cs

/-- Characters that no opaque host may hold. -/
def isForbiddenInOpaque (c : Char) : Bool :=
  ['\x00', '\t', '\n', '\r', ' ', '#', '/', ':', '<', '>', '?', '@', '[', '\\', ']', '^',
    '|'].contains c

/-- The host of a URL whose scheme is not special. -/
def parseOpaque : List Char → Except ParseError Host
  | '[' :: rest => parseBracketed rest
  | cs =>
    if cs.any isForbiddenInOpaque then .error .invalidDomainCharacter
    else .ok (.name (Percent.encode Percent.isControl cs))

end Host

end PanelBoard.Url
