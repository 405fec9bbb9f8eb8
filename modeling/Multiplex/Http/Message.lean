import Multiplex.Http.Field
import Multiplex.Http.Uri.Parser

/-!
# Requests and responses

The messages that an exchange consists of.  A `RequestDraft` holds the parts of
a request as they were given; `build` checks them in a fixed order, target,
method, then field by field, and reports the first part that is at fault.
-/

namespace Multiplex.Http

/-! ## Methods and versions -/

/-- A method: a token, compared letter by letter. -/
def isMethod (token : String) : Bool :=
  0 < token.toList.length && token.toList.all isTokenChar

/-- The method of a request. -/
structure Method where
  token : String
  isMethod : isMethod token = true
  deriving DecidableEq

namespace Method

/-- Reads a method. -/
def ofText? (token : String) : Option Method :=
  if valid : Http.isMethod token then some ⟨token, valid⟩ else none

def post : Method := ⟨"POST", by decide +kernel⟩
def connect : Method := ⟨"CONNECT", by decide +kernel⟩

end Method

/-- The version under which a message is written. -/
inductive Version
  | http09
  | http10
  | http11
  | http2
  | http3
  deriving DecidableEq, Repr, Inhabited

namespace Version

/-- How a version is written. -/
def text : Version → String
  | http09 => "HTTP/0.9"
  | http10 => "HTTP/1.0"
  | http11 => "HTTP/1.1"
  | http2 => "HTTP/2.0"
  | http3 => "HTTP/3.0"

/-- Reads a version. -/
def ofText? (text : String) : Option Version :=
  [http09, http10, http11, http2, http3].find? fun version => version.text == text

end Version

/-! ## Messages -/

/-- A request with its whole body. -/
structure Request where
  method : Method
  uri : Uri
  version : Version
  fields : Fields
  body : Octets
  deriving DecidableEq

/-- The part of a response that precedes its body. -/
structure ResponseHead where
  status : Nat
  fields : Fields
  deriving DecidableEq

/-- A response with its whole body. -/
structure Response where
  head : ResponseHead
  body : Octets
  deriving DecidableEq

/-! ## Building a request -/

/-- The parts of a request as they were given. -/
structure RequestDraft where
  method : String := "GET"
  uri : String := "/"
  version : Version := .http11
  fields : List (String × Octets) := []
  body : Octets := []
  deriving DecidableEq, Repr, Inhabited

/-- The part of a draft that is at fault. -/
inductive DraftError
  | uri (error : UriError)
  | method
  | fieldName
  | fieldValue
  deriving DecidableEq, Repr, Inhabited

/-- The wording of a draft error. -/
def DraftError.message : DraftError → String
  | .uri error => error.message
  | .method => "invalid HTTP method"
  | .fieldName => "invalid HTTP header name"
  | .fieldValue => "failed to parse header value"

/-- Appends fields that were given as text and octets; of a bad field the name
is reported before the value. -/
def Fields.extend (fields : Fields) (given : List (String × Octets)) :
    Except DraftError Fields :=
  given.foldlM (fun fields entry =>
    match FieldName.ofText? entry.1 with
    | none => .error .fieldName
    | some name =>
      match FieldValue.ofOctets? entry.2 with
      | none => .error .fieldValue
      | some value => .ok (fields.append name value)) fields

/-- Checks the parts of a draft and makes a request of them. -/
def RequestDraft.build (draft : RequestDraft) : Except DraftError Request :=
  match Uri.parse draft.uri with
  | .error error => .error (.uri error)
  | .ok uri =>
    match Method.ofText? draft.method with
    | none => .error .method
    | some method =>
      match Fields.empty.extend draft.fields with
      | .error error => .error error
      | .ok fields => .ok ⟨method, uri, draft.version, fields, draft.body⟩

end Multiplex.Http
