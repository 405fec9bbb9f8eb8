import Multiplex.Toml.Value

/-!
# Reading fields from TOML values

How a program takes the fields that it knows from a value: numbers in a range,
under names.  Fields may also be given as an array, which names its items by their
places.  A date stands for fields too, and names none of them.
-/

namespace Multiplex.Toml

/-- The number of a value, if it is an integer from zero up to a bound. -/
def Value.natural? (bound : Nat) : Value → Option Nat
  | .integer number => if 0 ≤ number ∧ number < bound then some number.toNat else none
  | _ => none

/-- The entries of a value that stands for fields with given names. -/
def Value.fields? (names : List String) : Value → Option Entries
  | .table _ entries => some entries
  | .array items => some (names.zip items)
  | .dateTime _ => some []
  | _ => none

/-- Reads the value of a key, or takes the default where the key is missing. -/
def Entries.read {α : Type} (entries : Entries) (key : String) (read : Value → Option α)
    (default : α) : Option α :=
  match entries.get? key with
  | none => some default
  | some value => read value

end Multiplex.Toml
