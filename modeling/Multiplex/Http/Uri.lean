/-!
# Request targets

The target of a request has one of three forms: a path with an optional query,
an authority alone, or a scheme with an authority and a path.  `assemble?` puts
a target together from its parts and says which parts belong together.

A path where nothing was written is the target that was put together from no part
at all.  It is read as the root, but as a part there is no path in it.
-/

namespace Multiplex.Http

/-- What is wrong with the text or the parts of a target. -/
inductive UriError
  | empty
  | tooLong
  | schemeTooLong
  | invalidFormat
  | invalidCharacter
  | invalidAuthority
  | pathWithoutSlash
  | authorityMissing
  | pathMissing
  | schemeMissing
  deriving DecidableEq, Repr, Inhabited

/-- The wording of a target error. -/
def UriError.message : UriError → String
  | .empty => "empty string"
  | .tooLong => "uri too long"
  | .schemeTooLong => "scheme too long"
  | .invalidFormat => "invalid format"
  | .invalidCharacter => "invalid uri character"
  | .invalidAuthority => "invalid authority"
  | .pathWithoutSlash => "path does not start with slash"
  | .authorityMissing => "authority missing"
  | .pathMissing => "path missing"
  | .schemeMissing => "scheme missing"

/-- The scheme of a target. -/
structure Scheme where
  text : String
  deriving DecidableEq, Repr, Inhabited

/-- The scheme that a request without one travels under. -/
def Scheme.https : Scheme := ⟨"https"⟩

/-- The authority of a target: a host, perhaps with user information and port. -/
structure Authority where
  text : String
  deriving DecidableEq, Repr, Inhabited

/-- A path with an optional query, kept as it was written. -/
structure PathAndQuery where
  written : String
  deriving DecidableEq, Repr, Inhabited

namespace PathAndQuery

/-- The path of the root. -/
def slash : PathAndQuery := ⟨"/"⟩

/-- The target that stands for the server as a whole. -/
def star : PathAndQuery := ⟨"*"⟩

/-- The text of a path and query; where nothing was written it is the root. -/
def text (target : PathAndQuery) : String :=
  if target.written.isEmpty then "/" else target.written

/-- The part before the first question mark; where nothing was written it is
the root. -/
def path (target : PathAndQuery) : String :=
  let written := target.written.toList.takeWhile (· != '?')
  if written.isEmpty then "/" else String.ofList written

/-- The part behind the first question mark, if there is one. -/
def query? (target : PathAndQuery) : Option String :=
  match target.written.toList.dropWhile (· != '?') with
  | [] => none
  | _ :: query => some (String.ofList query)

end PathAndQuery

/-- The target of a request. -/
inductive Uri
  | path (target : PathAndQuery)
  | authority (host : Authority)
  | absolute (scheme : Scheme) (host : Authority) (target : PathAndQuery)
  deriving DecidableEq, Repr, Inhabited

namespace Uri

/-- The scheme, if there is one. -/
def scheme? : Uri → Option Scheme
  | .absolute scheme _ _ => some scheme
  | _ => none

/-- The authority, if there is one. -/
def authority? : Uri → Option Authority
  | .path _ => none
  | .authority host => some host
  | .absolute _ host _ => some host

/-- The path and query, unless the target is an authority alone. -/
def pathAndQuery? : Uri → Option PathAndQuery
  | .path target => some target
  | .authority _ => none
  | .absolute _ _ target => some target

/-- Whether a target says nothing at all. -/
def isEmpty : Uri → Bool
  | .path target => target.written.isEmpty
  | _ => false

/-- The path and query as a part of a target.  A target that says nothing has no part. -/
def pathPart? (uri : Uri) : Option PathAndQuery :=
  if uri.isEmpty then none else uri.pathAndQuery?

/-- How a target is written. -/
def text (uri : Uri) : String :=
  let scheme := match uri.scheme? with
    | some scheme => scheme.text ++ "://"
    | none => ""
  let authority := match uri.authority? with
    | some host => host.text
    | none => ""
  let path := match uri.pathPart? with
    | some target => target.path
    | none => ""
  let query := match uri.pathPart?.bind PathAndQuery.query? with
    | some query => "?" ++ query
    | none => ""
  scheme ++ authority ++ path ++ query

/-- Puts a target together from its parts.  A scheme needs an authority and a
path, and a path behind an authority needs a scheme. -/
def assemble? : Option Scheme → Option Authority → Option PathAndQuery → Except UriError Uri
  | some _, none, _ => .error .authorityMissing
  | some _, some _, none => .error .pathMissing
  | some scheme, some host, some target => .ok (.absolute scheme host target)
  | none, some _, some _ => .error .schemeMissing
  | none, some host, none => .ok (.authority host)
  | none, none, some target => .ok (.path target)
  | none, none, none => .ok (.path ⟨""⟩)

end Uri

end Multiplex.Http
