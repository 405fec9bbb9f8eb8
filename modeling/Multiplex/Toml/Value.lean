/-!
# TOML values

The values of a TOML document.  A table remembers how it came to be, because that
decides what may still be added to it: a table in braces is complete, a table
under a header takes no dotted keys from outside, and only a table that is implied
by a longer header may still get a header of its own.

The literals of floats and of dates are kept as they were written.
-/

namespace Multiplex.Toml

/-- How a table came to be. -/
inductive Origin
  | header
  | implied
  | dotted
  | inline
  deriving DecidableEq, Repr, Inhabited

/-- A value of a document.  `tables` is what repeated headers in double brackets
make, oldest first. -/
inductive Value
  | string (text : String)
  | integer (number : Int)
  | float (literal : String)
  | boolean (value : Bool)
  | dateTime (literal : String)
  | array (items : List Value)
  | table (origin : Origin) (entries : List (String × Value))
  | tables (elements : List (List (String × Value)))
  deriving Inhabited

/-- The entries of a table in the order in which they were written. -/
abbrev Entries := List (String × Value)

namespace Entries

/-- The value of a key. -/
def get? (entries : Entries) (key : String) : Option Value := entries.lookup key

/-- Replaces the value of a key that is there. -/
def replace (entries : Entries) (key : String) (value : Value) : Entries :=
  entries.map fun entry => if entry.1 == key then (key, value) else entry

end Entries

end Multiplex.Toml
