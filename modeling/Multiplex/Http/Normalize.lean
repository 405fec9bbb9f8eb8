import Multiplex.Failure
import Multiplex.Http.Message

/-!
# Normalizing requests

A request written for a connection of its own carries fields that mean nothing
on a shared connection.  Normalizing it sets the version, removes the fields
that concern the connection, and makes the target absolute, taking the
authority from the `host` field where the target has none.

## Order

The fields are edited before the target is checked: a request whose `host`
field is at fault has lost that field when the error is reported.
-/

namespace Multiplex.Http

/-! ## Fields that concern the connection -/

/-- The blanks around a token of a list. -/
def isListBlank (c : Char) : Bool := c == ' ' || c == '\t'

/-- Removes the blanks on both sides. -/
def trimBlanks (chars : List Char) : List Char :=
  ((chars.dropWhile isListBlank).reverse.dropWhile isListBlank).reverse

/-- Cuts a text at each comma. -/
def splitAtCommas : List Char → List (List Char)
  | [] => [[]]
  | c :: rest =>
    if c == ',' then [] :: splitAtCommas rest
    else match splitAtCommas rest with
      | [] => [[c]]
      | first :: others => (c :: first) :: others

/-- The elements of a list field, without the blanks around them. -/
def listElements (text : String) : List String :=
  (splitAtCommas text.toList).map fun element => String.ofList (trimBlanks element)

namespace Fields

/-- The fields that the `connection` fields name.  Values that are not text, and
elements that are no field names, name nothing. -/
def nominated (fields : Fields) : List FieldName :=
  ((fields.values .connection).filterMap FieldValue.text?).flatMap fun text =>
    (listElements text).filterMap FieldName.ofText?

/-- The fields that never concern more than one connection. -/
def hopByHop : List FieldName :=
  [.connection, .transferEncoding, .upgrade, .keepAlive, .proxyConnection]

/-- Removes all values of several names. -/
def removeAll (fields : Fields) (names : List FieldName) : Fields :=
  names.foldl remove fields

/-- Equality of octets without regard to the case of ASCII letters. -/
def sameIgnoringCase (left right : Octets) : Bool :=
  let lower := fun (octet : UInt8) => if 65 ≤ octet && octet ≤ 90 then octet + 32 else octet
  left.map lower == right.map lower

/-- Whether each `te` value asks for trailers and for nothing else. -/
def acceptsTrailersOnly (fields : Fields) : Bool :=
  (fields.values .te).all fun value => sameIgnoringCase value.octets (Octets.ofText "trailers")

/-- Removes `te` unless it asks for trailers only. -/
def restrictTe (fields : Fields) : Fields :=
  if fields.acceptsTrailersOnly then fields else fields.remove .te

/-- Removes the fields that concern the connection. -/
def stripConnection (fields : Fields) : Fields :=
  ((fields.removeAll fields.nominated).removeAll hopByHop).restrictTe

end Fields

/-! ## The target -/

namespace Request

/-- Reads the authority that a `host` value names. -/
def hostAuthority (value : FieldValue) : Except ProtocolError Authority :=
  match value.text? with
  | none => .error (.invalidUri "failed to convert header to a str")
  | some text =>
    match Authority.parse text with
    | .error error => .error (.invalidUri error.message)
    | .ok authority => .ok authority

/-- Makes the target absolute with an authority.  The target of a `CONNECT`
request gets neither scheme nor path. -/
def completeUri (request : Request) (authority : Option Authority) :
    Request × Except ProtocolError Unit :=
  let uri := request.uri
  let isConnect := request.method == .connect
  let scheme := if isConnect then uri.scheme? else some (uri.scheme?.getD .https)
  let target := if isConnect then uri.pathPart? else some (uri.pathPart?.getD .slash)
  match Uri.assemble? scheme (authority <|> uri.authority?) target with
  | .error error => (request, .error (.invalidUri error.message))
  | .ok uri => ({ request with uri }, .ok ())

/-- Gives the target the authority, scheme and path that it lacks. -/
def resolveTarget (request : Request) : Request × Except ProtocolError Unit :=
  if request.uri.authority?.isNone then
    match request.fields.values .host with
    | [] => (request, .error .missingAuthority)
    | value :: _ =>
      let request := { request with fields := request.fields.remove .host }
      match hostAuthority value with
      | .error error => (request, .error error)
      | .ok authority => request.completeUri (some authority)
  else if request.uri.scheme?.isNone && request.method != .connect then
    request.completeUri none
  else (request, .ok ())

/-- Removes what concerns the connection and marks the request with the version
of the shared connection. -/
def stripped (request : Request) : Request :=
  { request with version := .http2, fields := request.fields.stripConnection }

/-- Changes a request so that it can travel as one stream of a shared
connection.  The first component is the request afterwards, also when an error
is reported. -/
def normalize (request : Request) : Request × Except ProtocolError Unit :=
  request.stripped.resolveTarget

end Request

end Multiplex.Http
