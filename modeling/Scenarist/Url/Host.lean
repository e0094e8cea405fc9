import Scenarist.Url.Domain
import Scenarist.Url.Ipv4
import Scenarist.Url.Ipv6
import Scenarist.Url.Percent

/-! # Hosts

The host of a web address is a domain name or a number. Other schemes may have a host of any
name.
-/

namespace Scenarist

inductive Host where
  | domain (name : Text)
  | ipv4 (address : UInt32)
  | ipv6 (address : Ipv6)
deriving DecidableEq

namespace Host

def toText : Host → Text
  | .domain name => name
  | .ipv4 a => Ipv4.toText a
  | .ipv6 a => "[" ++ a.toText ++ "]"

/-- An address of 128 bits between square brackets. -/
def bracketed? (t : Text) : Option Host :=
  (Text.dropEnd? ['\x5d'] t).bind fun inner => (Ipv6.ofText? inner).map .ipv6

/-- The host of a web address. -/
def ofText? (t : Text) : Option Host :=
  match t with
  | '[' :: r => bracketed? r
  | t => do
    let name ← Domain.toAscii? (← Percent.decode? t)
    if Ipv4.endsInNumber name then return .ipv4 (← Ipv4.ofText? name)
    else return .domain name

/-- The host of an address of another scheme: any name without separators. -/
def ofForeign? (t : Text) : Option Host :=
  match t with
  | '[' :: r => bracketed? r
  | t =>
    if t.any fun c => c ∈ "\x00 #/:<>?@[\\]^|".toList then none
    else some (.domain (Percent.encode Percent.isControl t))

end Host

end Scenarist
