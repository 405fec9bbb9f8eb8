import Multiplex.Http.Uri

/-!
# Reading request targets

`Uri.parse` decides the form of a target from its first characters: a slash
starts a path, a scheme ends at `://`, and anything else must be an authority
from end to end.  An authority reaches up to the first slash, question mark or
number sign; the rest is a path with its query, and a fragment is dropped.
-/

namespace Multiplex.Http

/-! ## Authorities -/

/-- The characters that end an authority. -/
def isAuthorityEnd (c : Char) : Bool := c == '/' || c == '?' || c == '#'

/-- The plain characters of an authority. -/
def isAuthorityChar (c : Char) : Bool :=
  c.isAlphanum || "!$&'()*+,;=-._~".toList.contains c

/-- What has been seen of an authority: the colons since the last bracket or
user information, whether a bracket was opened and closed, whether a percent
sign still waits for the user information that allows it, and whether the last
character ended the user information. -/
structure AuthorityScan where
  colons : Nat := 0
  opened : Bool := false
  closed : Bool := false
  percent : Bool := false
  endsInAt : Bool := false
  deriving DecidableEq, Repr, Inhabited

namespace AuthorityScan

/-- The colons of the longest address in brackets. -/
def colonLimit : Nat := 8

/-- Takes one more character. -/
def step (scan : AuthorityScan) (c : Char) : Except UriError AuthorityScan :=
  if c == ':' then
    if colonLimit ≤ scan.colons then .error .invalidAuthority
    else .ok { scan with colons := scan.colons + 1, endsInAt := false }
  else if c == '[' then
    if scan.percent || scan.opened then .error .invalidAuthority
    else .ok { scan with opened := true, endsInAt := false }
  else if c == ']' then
    if !scan.opened || scan.closed then .error .invalidAuthority
    else .ok { scan with closed := true, colons := 0, percent := false, endsInAt := false }
  else if c == '@' then
    .ok { scan with colons := 0, percent := false, endsInAt := true }
  else if c == '%' then
    .ok { scan with percent := true, endsInAt := false }
  else if isAuthorityChar c then .ok { scan with endsInAt := false }
  else .error .invalidCharacter

/-- What may not be left over at the end: an open bracket, more than one colon,
user information without a host, or a percent sign outside of it. -/
def isComplete (scan : AuthorityScan) : Bool :=
  scan.opened == scan.closed && scan.colons ≤ 1 && !scan.endsInAt && !scan.percent

end AuthorityScan

namespace Authority

/-- Checks the characters of an authority from left to right, then the whole. -/
def check (chars : List Char) : Except UriError Unit := do
  let scan ← chars.foldlM AuthorityScan.step {}
  if scan.isComplete then .ok () else .error .invalidAuthority

/-- Splits off the longest beginning without a character that ends an
authority, and checks it. -/
def split (chars : List Char) : Except UriError (Authority × List Char) := do
  let (front, rest) := chars.span (!isAuthorityEnd ·)
  check front
  return (⟨String.ofList front⟩, rest)

/-- Reads a text that is an authority from end to end. -/
def parse (text : String) : Except UriError Authority := do
  if text.isEmpty then .error .empty
  let (authority, rest) ← split text.toList
  if rest.isEmpty then return authority else .error .invalidCharacter

end Authority

/-! ## Paths and queries -/

/-- The characters of a path.  Characters outside of ASCII are taken as they
are. -/
def isPathChar (c : Char) : Bool :=
  let n := c.toNat
  n == 0x21 || n == 0x22 || (0x24 ≤ n && n ≤ 0x3B) || n == 0x3D || (0x40 ≤ n && n ≤ 0x5F) ||
    (0x61 ≤ n && n ≤ 0x7E) || 0x80 ≤ n

/-- The characters of a query. -/
def isQueryChar (c : Char) : Bool :=
  let n := c.toNat
  n == 0x21 || (0x24 ≤ n && n ≤ 0x3B) || n == 0x3D || (0x3F ≤ n && n ≤ 0x7E) || 0x80 ≤ n

namespace PathAndQuery

/-- Reads a path with its query; a fragment ends either and is dropped. -/
def parse (chars : List Char) : Except UriError PathAndQuery := do
  if chars == ['*'] then return star
  unless (chars.head?.map isAuthorityEnd).getD false do .error .pathWithoutSlash
  let written := chars.takeWhile (· != '#')
  let (path, query) := written.span (· != '?')
  if path.all isPathChar && (query.drop 1).all isQueryChar then
    return ⟨String.ofList written⟩
  else .error .invalidCharacter

end PathAndQuery

/-! ## Schemes -/

/-- The characters of a scheme. -/
def isSchemeChar (c : Char) : Bool :=
  c.isAlphanum || c == '+' || c == '-' || c == '.' || c == '~'

/-- The largest number of characters in a scheme. -/
def schemeLimit : Nat := 64

/-- Removes `front` from the beginning of `chars`, comparing letters without
regard to case. -/
def dropFront? (front : String) (chars : List Char) : Option (List Char) :=
  let length := front.toList.length
  if (chars.take length).map Char.toLower == front.toList then some (chars.drop length) else none

namespace Scheme

/-- Splits off a scheme with its mark `://`, if there is one. -/
def split? (chars : List Char) : Except UriError (Option (Scheme × List Char)) :=
  match dropFront? "http://" chars, dropFront? "https://" chars with
  | some rest, _ => .ok (some (⟨"http"⟩, rest))
  | none, some rest => .ok (some (.https, rest))
  | none, none =>
    let (name, behind) := chars.span isSchemeChar
    match behind with
    | ':' :: '/' :: '/' :: rest =>
      if name.isEmpty && rest.isEmpty then .ok none
      else if schemeLimit < name.length then .error .schemeTooLong
      else .ok (some (⟨String.ofList name⟩, rest))
    | _ => .ok none

end Scheme

/-! ## Targets -/

namespace Uri

/-- The largest number of octets in a target. -/
def sizeLimit : Nat := 65534

/-- Reads a target that starts with neither a slash nor a star. -/
def parseFull (chars : List Char) : Except UriError Uri := do
  match ← Scheme.split? chars with
  | none =>
    let (host, rest) ← Authority.split chars
    if rest.isEmpty then return .authority host else .error .invalidFormat
  | some (scheme, behind) =>
    if behind.isEmpty then .error .empty
    let (host, rest) ← Authority.split behind
    if host.text.isEmpty then .error .invalidFormat
    let target ← if rest.isEmpty then .ok PathAndQuery.slash else PathAndQuery.parse rest
    return .absolute scheme host target

/-- Reads the target of a request. -/
def parse (text : String) : Except UriError Uri :=
  if sizeLimit < text.utf8ByteSize then .error .tooLong
  else match text.toList with
    | [] => .error .empty
    | ['*'] => .ok (.path .star)
    | '/' :: rest => (PathAndQuery.parse ('/' :: rest)).map .path
    | [_] => (Authority.parse text).map .authority
    | chars => parseFull chars

end Uri

end Multiplex.Http
