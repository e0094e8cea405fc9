import Scenarist.Url.Host
import Scenarist.Url.Path

/-! # Web addresses

An address is read without a base: a scheme, then an authority with a host and a port where there
is one, a path, a query, and a fragment. Credentials are passed over. Tabs, line breaks, and blanks
at the two ends do not count.
-/

namespace Scenarist

structure Url where
  scheme : Text
  host : Option Host
  /-- The port, unless it is the one of the scheme. -/
  port : Option UInt16
  path : Text
  query : Option Text
  fragment : Option Text
deriving DecidableEq

namespace Url

/-! ## Schemes -/

/-- Schemes whose addresses have the form of web addresses, with their ports. -/
def webSchemes : List (Text × Option UInt16) :=
  [("http".toList, some 80), ("https", some 443), ("ws", some 80), ("wss", some 443),
    ("ftp", some 21), ("file", none)]

def isWeb (scheme : Text) : Bool := (webSchemes.lookup scheme).isSome

def defaultPort? (scheme : Text) : Option UInt16 := (webSchemes.lookup scheme).join

def isSchemeChar (c : Char) : Bool := c.isAlphanum || c == '+' || c == '-' || c == '.'

/-- The scheme in small letters, and what follows its colon. -/
def scheme? (t : Text) : Option (Text × Text) :=
  match t, t.dropWhile isSchemeChar with
  | c :: _, ':' :: rest =>
    if c.isAlpha then some (Text.toAsciiLower (t.takeWhile isSchemeChar), rest) else none
  | _, _ => none

/-! ## The authority -/

/-- A slash, which in web addresses may lean either way. -/
def isSlash (web : Bool) (c : Char) : Bool := c == '/' || (web && c == '\\')

/-- The end of an authority. -/
def endsAuthority (web : Bool) (c : Char) : Bool := isSlash web c || c == '?' || c == '#'

/-- The text behind the last at sign. -/
def dropCredentials (authority : Text) : Text :=
  match Text.splitLast? '@' authority with
  | some (_, rest) => rest
  | none => authority

/-- The text up to the first colon outside brackets, and from it on. -/
def splitPort (bracket : Bool) : Text → Text × Text
  | [] => ([], [])
  | c :: r =>
    if c = ':' ∧ !bracket then ([], c :: r)
    else
      let (host, port) :=
    splitPort (if c = '[' then true else if c = '\x5d' then false else bracket) r
      (c :: host, port)

/-- The port behind a colon. Without digits there is none, and the port of the scheme is left
out. -/
def port? (scheme : Text) : Text → Option (Option UInt16)
  | ':' :: digits =>
    if digits = [] then some none
    else do
      let n ← Text.toNat? 10 digits
      if n < 0x10000 then
        let port := UInt16.ofNat n
        return if defaultPort? scheme = some port then none else some port
      else none
  | _ => some none

/-- The host and the port that an authority writes. Only a web address must have a host. -/
def authority? (scheme authority : Text) : Option (Option Host × Option UInt16) := do
  let web := isWeb scheme
  let (name, rest) := splitPort false (dropCredentials authority)
  let rest := rest.takeWhile (· ≠ '\\')
  if name = [] then if web then none else return (none, none)
  else return (some (← if web then Host.ofText? name else Host.ofForeign? name),
    ← port? scheme rest)

/-! ## Path, query and fragment -/

/-- Where a path ends. -/
def endsPath (c : Char) : Bool := c == '?' || c == '#'

/-- The slashes of a path lean one way. -/
def uprightSlashes (web : Bool) (t : Text) : Text :=
  t.map fun c => if isSlash web c then '/' else c

def pathSegments (scheme t : Text) : List Text :=
  match uprightSlashes (isWeb scheme) t with
  | [] => if isWeb scheme then [[]] else []
  | '/' :: r => Path.ofText (scheme == "file".toList) r
  | r => Path.ofText (scheme == "file".toList) r

def queryOf (web : Bool) (t : Text) : Text :=
  Percent.encode (if web then Percent.inWebQuery else Percent.inQuery) t

def fragmentOf (t : Text) : Text := Percent.encode Percent.inFragment t

/-- The query and the fragment at the start of a text. -/
def tail (web : Bool) (t : Text) : Option Text × Option Text :=
  let fragment (t : Text) : Option Text := match t with
    | '#' :: f => some (fragmentOf f)
    | _ => none
  match t with
  | '?' :: r => (some (queryOf web (r.takeWhile (· ≠ '#'))), fragment (r.dropWhile (· ≠ '#')))
  | t => (none, fragment t)

/-! ## Addresses -/

/-- The address with this host and port and what follows them. -/
def located (scheme : Text) (host : Option Host) (port : Option UInt16) (rest : Text) : Url :=
  let (query, fragment) := tail (isWeb scheme) (rest.dropWhile (!endsPath ·))
  let path := Path.toText (pathSegments scheme (rest.takeWhile (!endsPath ·)))
  ⟨scheme, host, port, path, query, fragment⟩

/-- An address with the authority at the start of a text. -/
def withAuthority? (scheme t : Text) : Option Url := do
  let ends := endsAuthority (isWeb scheme)
  let (host, port) ← authority? scheme (t.takeWhile (!ends ·))
  return located scheme host port (t.dropWhile (!ends ·))

/-- The host of a file, unless it is this machine. -/
def fileHost? (name : Text) : Option (Option Host) :=
  if name = [] then some none
  else (Host.ofText? name).map fun host => if host = .domain "localhost" then none else some host

/-- A file on a drive has no host. -/
def withoutDriveHost (u : Url) : Url :=
  match (Text.splitAll '/' (u.path.drop 1)).head? with
  | some first => if Path.isDrive first then { u with host := none } else u
  | none => u

/-- The address of a file: with a host behind two slashes, unless a drive stands there. -/
def file? (t : Text) : Option Url :=
  let scheme : Text := "file"
  match uprightSlashes true (t.take 2) with
  | ['/', '/'] => do
    let rest := t.drop 2
    let name := rest.takeWhile (!endsAuthority true ·)
    if Path.isDrive name then return located scheme none none rest
    else
      let host ← fileHost? name
      return withoutDriveHost (located scheme host none (rest.drop name.length))
  | _ => some (located scheme none none t)

/-- An address whose path has no structure. -/
def unstructured (scheme t : Text) : Url :=
  let (query, fragment) := tail false (t.dropWhile (!endsPath ·))
  ⟨scheme, none, none, Percent.encode Percent.isControl (t.takeWhile (!endsPath ·)), query,
    fragment⟩

/-- The characters that count: none of the blanks at the ends, no tabs and line breaks. -/
def significant (t : Text) : Text :=
  let inner := ((t.dropWhile (· ≤ ' ')).reverse.dropWhile (· ≤ ' ')).reverse
  inner.filter fun c => c ∉ ['\t', '\n', '\r']

/-- The address that a text writes. -/
def ofText? (t : Text) : Option Url := do
  let (scheme, rest) ← scheme? (significant t)
  if scheme = "file" then file? rest
  else if isWeb scheme then withAuthority? scheme (rest.dropWhile (isSlash true))
  else match rest with
    | '/' :: '/' :: r => withAuthority? scheme r
    | '/' :: _ => return located scheme none none rest
    | _ => return unstructured scheme rest

/-- The name of the host. -/
def hostText? (u : Url) : Option Text := u.host.map Host.toText

end Url

end Scenarist
