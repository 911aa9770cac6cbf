import Concord.Text.Hex
import Concord.Url.Domain
import Concord.Url.Ipv4
import Concord.Url.Ipv6
import Concord.Url.Percent

/-!
# Hosts

The host of an address is a name or an address of the network.  Between brackets
stand eight pieces.  Anything else is decoded, brought to the normal form of names,
and then read as four bytes if its last part is a number.
-/

namespace Concord.Url

open Text

/-- Why a text is not an address. -/
inductive UrlError where
  /-- The text does not name a scheme. -/
  | relative
  | emptyHost
  | invalidName
  /-- The host ends like four bytes but is none. -/
  | invalidIpv4
  /-- What stands between brackets is not eight pieces. -/
  | invalidIpv6
  /-- The port is not a number of 16 bits. -/
  | invalidPort
  deriving Repr, DecidableEq

/-- The wording of each error. -/
def UrlError.message : UrlError → String
  | .relative => "relative URL without a base"
  | .emptyHost => "empty host"
  | .invalidName => "invalid international domain name"
  | .invalidIpv4 => "invalid IPv4 address"
  | .invalidIpv6 => "invalid IPv6 address"
  | .invalidPort => "invalid port number"

/-- A host. -/
inductive Host where
  /-- A name in normal form. -/
  | name (text : String)
  /-- Four bytes. -/
  | ipv4 (address : Ipv4)
  /-- Eight pieces. -/
  | ipv6 (address : Ipv6)
  deriving DecidableEq

namespace Host

/-- The characters that an encoded text stands for, if its bytes are UTF-8. -/
def decoded? (cs : List Char) : Option (List Char) :=
  (String.fromUTF8? (ByteArray.mk (percentDecode (utf8Bytes cs)).toArray)).map String.toList

/-- Reads what stands between brackets, the last of them included. -/
def ofBracketed (cs : List Char) : Except UrlError Host :=
  match cs.getLast?, Ipv6.read? cs.dropLast with
  | some ']', some a => .ok (.ipv6 a)
  | _, _ => .error .invalidIpv6

/-- Reads a name in normal form. -/
def ofNormalForm (cs : List Char) : Except UrlError Host :=
  if cs = [] then .error .emptyHost
  else if Ipv4.isMeant cs then
    match Ipv4.read? cs with
    | some a => .ok (.ipv4 a)
    | none => .error .invalidIpv4
  else .ok (.name (String.ofList cs))

def read : List Char → Except UrlError Host
  | [] => .error .emptyHost
  | '[' :: cs => ofBracketed cs
  | cs =>
    match (decoded? cs).bind Domain.normalForm? with
    | some text => ofNormalForm text
    | none => .error .invalidName

/-- A host as it is written. -/
def display : Host → String
  | .name text => text
  | .ipv4 a => a.display
  | .ipv6 a => a.display

end Host

end Concord.Url
