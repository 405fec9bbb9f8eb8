import Multiplex.Octets

/-!
# Header fields

A message carries a list of fields, each a name with a value.  Names are tokens
and are compared without regard to case, so they are kept in lowercase.  Values
are octets.  A name may occur several times; the values of one name keep the
order in which they were appended.
-/

namespace Multiplex.Http

/-! ## Names -/

/-- The characters of a token. -/
def isTokenChar (c : Char) : Bool :=
  c.isAlphanum || "!#$%&'*+-.^_`|~".toList.contains c

/-- The largest number of characters in a field name. -/
def fieldNameLimit : Nat := 65535

/-- A field name: a token in lowercase, neither empty nor too long. -/
def isFieldName (name : String) : Bool :=
  let chars := name.toList
  0 < chars.length && chars.length ≤ fieldNameLimit &&
    chars.all fun c => isTokenChar c && !c.isUpper

/-- The name of a header field. -/
structure FieldName where
  text : String
  isName : isFieldName text = true
  deriving DecidableEq

namespace FieldName

/-- Reads a field name, whatever its case. -/
def ofText? (text : String) : Option FieldName :=
  let lowered := text.toLower
  if isName : isFieldName lowered then some ⟨lowered, isName⟩ else none

def connection : FieldName := ⟨"connection", by decide +kernel⟩
def host : FieldName := ⟨"host", by decide +kernel⟩
def keepAlive : FieldName := ⟨"keep-alive", by decide +kernel⟩
def proxyConnection : FieldName := ⟨"proxy-connection", by decide +kernel⟩
def te : FieldName := ⟨"te", by decide +kernel⟩
def transferEncoding : FieldName := ⟨"transfer-encoding", by decide +kernel⟩
def upgrade : FieldName := ⟨"upgrade", by decide +kernel⟩
def echoPath : FieldName := ⟨"x-echo-path", by decide +kernel⟩

end FieldName

/-! ## Values -/

/-- The octets that a field value may hold: no controls, the tab apart. -/
def isFieldOctet (octet : UInt8) : Bool :=
  octet == 9 || (32 ≤ octet && octet != 127)

/-- The octets that are printable text: ASCII without controls, the tab apart. -/
def isTextOctet (octet : UInt8) : Bool :=
  octet == 9 || (32 ≤ octet && octet < 127)

/-- The value of a header field. -/
structure FieldValue where
  octets : Octets
  isValue : octets.all isFieldOctet = true
  deriving DecidableEq

namespace FieldValue

/-- Takes octets as a field value, unless one of them is a control. -/
def ofOctets? (octets : Octets) : Option FieldValue :=
  if isValue : octets.all isFieldOctet then some ⟨octets, isValue⟩ else none

/-- The value as text.  A value with an octet outside of printable ASCII has
none, even where it is valid in some encoding. -/
def text? (value : FieldValue) : Option String :=
  if value.octets.all isTextOctet then
    some (String.ofList (value.octets.map fun octet => Char.ofNat octet.toNat))
  else none

end FieldValue

/-! ## Field lists -/

/-- The fields of a message in the order in which they were appended. -/
structure Fields where
  entries : List (FieldName × FieldValue)
  deriving DecidableEq

namespace Fields

/-- No fields. -/
def empty : Fields := ⟨[]⟩

/-- Adds a value behind all others. -/
def append (fields : Fields) (name : FieldName) (value : FieldValue) : Fields :=
  ⟨fields.entries ++ [(name, value)]⟩

/-- All values of a name in their order. -/
def values (fields : Fields) (name : FieldName) : List FieldValue :=
  (fields.entries.filter fun entry => entry.1 == name).map Prod.snd

/-- Removes all values of a name. -/
def remove (fields : Fields) (name : FieldName) : Fields :=
  ⟨fields.entries.filter fun entry => entry.1 != name⟩

theorem values_append_self (fields : Fields) (name : FieldName) (value : FieldValue) :
    (fields.append name value).values name = fields.values name ++ [value] := by
  simp [values, append]

@[simp] theorem values_remove_self (fields : Fields) (name : FieldName) :
    (fields.remove name).values name = [] := by
  simp only [values, remove, List.filter_filter, List.map_eq_nil_iff, List.filter_eq_nil_iff]
  intro entry _
  simp

theorem values_remove_of_ne (fields : Fields) {name other : FieldName} (hne : name ≠ other) :
    (fields.remove other).values name = fields.values name := by
  simp only [values, remove, List.filter_filter]
  congr 1
  refine List.filter_congr fun entry _ => ?_
  by_cases hname : entry.1 = name <;> simp [hname, hne]

end Fields

end Multiplex.Http
