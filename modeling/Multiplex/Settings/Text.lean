import Multiplex.Settings.Table
import Multiplex.Toml.Writer

/-!
# The text of settings

How settings are written into a file: one table under a header for the pool and
one for the stress run, each number on a line of its own.  Durations are written
in whole units, and a setting that is absent is left out.
-/

namespace Multiplex

/-- The largest word of 64 bits. -/
def largestWord : Nat := Word.bound64 - 1

/-- The numbers of the pool settings. -/
def PoolSettings.numbers (pool : PoolSettings) : List (String × Nat) :=
  [(connectionsKey, pool.maxConnections), (streamsKey, pool.maxStreams)]

/-- The numbers of the stress settings.  The delay is at most the largest word. -/
def StressSettings.numbers (stress : StressSettings) : List (String × Nat) :=
  [(exchangesKey, stress.exchanges), (timeoutKey, stress.responseTimeout.seconds)] ++
    (stress.closeAfter.map fun count => (closeAfterKey, count)).toList ++
    [(delayKey, min stress.responseDelay.milliseconds largestWord)]

namespace Settings

/-- The tables that are written. -/
def tables (settings : Settings) : List Toml.NumberTable :=
  [⟨poolKey, settings.pool.numbers⟩, ⟨stressKey, settings.stress.numbers⟩]

/-- Whether every number is one that a document can hold. -/
def isWritable (settings : Settings) : Bool :=
  settings.tables.all fun table => table.numbers.all fun entry => entry.2 < documentBound

/-- The text of the settings, if every number can be written. -/
def text? (settings : Settings) : Option String :=
  if settings.isWritable then some (String.ofList (Toml.writeTables settings.tables)) else none

end Settings

end Multiplex
