import Multiplex.Settings.Basic
import Multiplex.Toml.Decode
import Multiplex.Word

/-!
# Settings as TOML tables

Which keys carry the settings, and in which range their numbers are.  A key that
is missing leaves the default, a key that is not known is ignored, and a known key
whose value is no number in range makes the whole document unfit.

The settings of a pool or of a run may also be given as an array of their values.
-/

namespace Multiplex

/-- The first number that a document cannot hold. -/
def documentBound : Nat := Word.bound63

/-- The first number that is too large for a limit on streams. -/
def streamLimitBound : Nat := Word.bound32

/-! ## The pool -/

namespace PoolSettings

def connectionsKey : String := "max_connections"

def streamsKey : String := "max_concurrent_streams"

/-- The keys in the order in which an array gives their values. -/
def keys : List String := [connectionsKey, streamsKey]

/-- Reads the settings of a pool. -/
def ofToml? (value : Toml.Value) : Option PoolSettings := do
  let entries ← value.fields? keys
  let defaults : PoolSettings := {}
  return {
    maxConnections :=
      ← entries.read connectionsKey (Toml.Value.natural? documentBound)
        defaults.maxConnections
    maxStreams :=
      ← entries.read streamsKey (Toml.Value.natural? streamLimitBound)
        defaults.maxStreams }

end PoolSettings

/-! ## The stress run -/

namespace StressSettings

def exchangesKey : String := "exchanges"

def timeoutKey : String := "response_timeout"

def closeAfterKey : String := "close_after"

def delayKey : String := "response_delay"

/-- The keys in the order in which an array gives their values. -/
def keys : List String := [exchangesKey, timeoutKey, closeAfterKey, delayKey]

/-- Reads the settings of a stress run. -/
def ofToml? (value : Toml.Value) : Option StressSettings := do
  let entries ← value.fields? keys
  let defaults : StressSettings := {}
  let natural? := Toml.Value.natural? documentBound
  return {
    exchanges := ← entries.read exchangesKey natural? defaults.exchanges
    responseTimeout :=
      ← entries.read timeoutKey (fun value => (natural? value).map Duration.ofSeconds)
        defaults.responseTimeout
    closeAfter :=
      ← entries.read closeAfterKey (fun value => (natural? value).map some) defaults.closeAfter
    responseDelay :=
      ← entries.read delayKey
        (fun value => (natural? value).map Duration.ofMilliseconds) defaults.responseDelay }

end StressSettings

/-! ## All settings -/

namespace Settings

def poolKey : String := "pool"

def stressKey : String := "stress"

/-- Reads all settings. -/
def ofToml? (document : Toml.Entries) : Option Settings := do
  return {
    pool := ← document.read poolKey PoolSettings.ofToml? {}
    stress := ← document.read stressKey StressSettings.ofToml? {} }

end Settings

end Multiplex
