/-!
# Writing TOML tables

Tables of numbers are written under headers, each number on a line of its own, with
an empty line between the tables.
-/

namespace Multiplex.Toml

/-- A table with its name and its numbers. -/
structure NumberTable where
  name : String
  numbers : List (String × Nat)
  deriving DecidableEq, Repr, Inhabited

/-- Writes a key with its number on a line. -/
def writeNumber (key : String) (number : Nat) : List Char :=
  key.toList ++ " = ".toList ++ Nat.toDigits 10 number ++ ['\n']

/-- Writes a table under its header. -/
def NumberTable.write (table : NumberTable) : List Char :=
  '[' :: table.name.toList ++ "]\n".toList ++
    table.numbers.flatMap fun (key, number) => writeNumber key number

/-- Writes several tables with an empty line between them. -/
def writeTables : List NumberTable → List Char
  | [] => []
  | [table] => table.write
  | table :: tables => table.write ++ '\n' :: writeTables tables

end Multiplex.Toml
