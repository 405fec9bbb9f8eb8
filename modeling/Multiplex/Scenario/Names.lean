/-!
# Names

The names that a scenario gives to things.  A name stands for one thing at a
time; giving it to another thing takes it from the first.
-/

namespace Multiplex.Scenario

/-- Names for things of type `κ`, each name at most once. -/
structure Names (κ : Type) where
  entries : List (String × κ) := []

namespace Names

variable {κ : Type}

/-- The thing that a name stands for. -/
def find? (names : Names κ) (name : String) : Option κ :=
  (names.entries.find? fun entry => entry.1 == name).map Prod.snd

/-- Takes a name away. -/
def erase (names : Names κ) (name : String) : Names κ :=
  ⟨names.entries.filter fun entry => entry.1 != name⟩

/-- Gives a name to a thing. -/
def give (names : Names κ) (name : String) (thing : κ) : Names κ :=
  ⟨(names.erase name).entries ++ [(name, thing)]⟩

/-- A name of a thing. -/
def nameOf? [BEq κ] (names : Names κ) (thing : κ) : Option String :=
  (names.entries.find? fun entry => entry.2 == thing).map Prod.fst

end Names

end Multiplex.Scenario
