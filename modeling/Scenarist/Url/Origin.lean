import Scenarist.Text.Basic
import Scenarist.Url.Basic

/-! # Origins

An origin is a scheme, a host and a port. Addresses of one origin can be written relative to each
other. Only some schemes have origins that are ever the same.
-/

namespace Scenarist

structure Origin where
  scheme : Text
  host : Host
  port : UInt16
deriving DecidableEq

namespace Origin

/-- The origin as an address; the port of the scheme is left out. -/
def toText (o : Origin) : Text :=
  o.scheme ++ "://" ++ o.host.toText ++
    if Url.defaultPort? o.scheme = some o.port then [] else ':' :: Text.ofNat o.port.toNat

end Origin

namespace Url

/-- The schemes of the web itself. -/
def isHttp (u : Url) : Bool := u.scheme == "http".toList || u.scheme == "https".toList

/-- The origin of an address whose scheme has a port. -/
def ownOrigin? (u : Url) : Option Origin := do
  let port ← defaultPort? u.scheme
  return ⟨u.scheme, ← u.host, u.port.getD port⟩

/-- The origin of an address. That of a blob is the one of the address inside; at most `depth`
blobs are opened. -/
def originWithin? : (depth : Nat) → Url → Option Origin
  | 0, u => u.ownOrigin?
  | n + 1, u =>
    if u.scheme = "blob" then (ofText? u.path).bind (originWithin? n) else u.ownOrigin?

/-- The origin of an address, if it has one that other addresses may share. -/
def origin? (u : Url) : Option Origin := originWithin? u.path.length u

def isSameOrigin (u v : Url) : Bool := u.origin?.isSome && u.origin? == v.origin?

/-- Path, query and fragment. -/
def reference (u : Url) : Text :=
  u.path ++ (u.query.map ('?' :: ·)).getD [] ++ (u.fragment.map ('#' :: ·)).getD []

/-! ## Texts of addresses -/

/-- The start of an address that no scenario goes to. -/
def trivialStarts : List Text :=
  ["about:", "data:", "blob:", "chrome:", "chrome-extension:", "chrome-error:", "chrome-search:",
    "edge:", "devtools:", "moz-extension:", "view-source:"].map String.toList

/-- The text is blank, or the address of a page that no scenario goes to. -/
def isTrivial (t : Text) : Bool :=
  let t := Text.trim t
  t.isEmpty || trivialStarts.any fun start => Text.toAsciiLower (t.take start.length) == start

/-- The text is an address of the web itself. -/
def isAbsoluteHttp (t : Text) : Bool := (ofText? t).any isHttp

/-- The origin of an address of the web itself. -/
def inferOrigin? (t : Text) : Option Text := do
  let u ← ofText? t
  if u.isHttp then return (← u.origin?).toText else none

/-- The address relative to a base of the same origin, or else as it is. -/
def relativeTo (base : Option Text) (t : Text) : Text :=
  match base.bind ofText?, ofText? t with
  | some b, some u => if u.isSameOrigin b then u.reference else t
  | _, _ => t

/-- The host of the address that a text writes. -/
def hostOf? (t : Text) : Option Text := (ofText? t).bind hostText?

end Url

end Scenarist
