/-!
# Settings

The settings of a pool and of a stress run, with their defaults.  Durations are
counted in nanoseconds; settings files give them in whole seconds or whole
milliseconds.
-/

namespace Multiplex

/-! ## Durations -/

/-- A span of time. -/
structure Duration where
  nanoseconds : Nat
  deriving DecidableEq, Repr, Inhabited

namespace Duration

/-- Nanoseconds in a second. -/
def second : Nat := 1000000000

/-- Nanoseconds in a millisecond. -/
def millisecond : Nat := 1000000

/-- So many whole seconds. -/
def ofSeconds (count : Nat) : Duration := ⟨count * second⟩

/-- So many whole milliseconds. -/
def ofMilliseconds (count : Nat) : Duration := ⟨count * millisecond⟩

/-- The whole seconds. -/
def seconds (duration : Duration) : Nat := duration.nanoseconds / second

/-- The whole milliseconds. -/
def milliseconds (duration : Duration) : Nat := duration.nanoseconds / millisecond

/-- The nanoseconds behind the whole seconds. -/
def subsecond (duration : Duration) : Nat := duration.nanoseconds % second

@[simp] theorem seconds_ofSeconds (count : Nat) : (ofSeconds count).seconds = count := by
  simp [seconds, ofSeconds, second]

@[simp] theorem milliseconds_ofMilliseconds (count : Nat) :
    (ofMilliseconds count).milliseconds = count := by
  simp [milliseconds, ofMilliseconds, millisecond]

end Duration

/-! ## The settings -/

/-- The limits of a pool. -/
structure PoolSettings where
  maxConnections : Nat := 4
  maxStreams : Nat := 100
  deriving DecidableEq, Repr, Inhabited

/-- What a stress run does.  If `closeAfter` is given, the pool is closed when so
many exchanges were dispatched. -/
structure StressSettings where
  exchanges : Nat := 1000
  responseTimeout : Duration := .ofSeconds 10
  closeAfter : Option Nat := none
  responseDelay : Duration := .ofMilliseconds 1
  deriving DecidableEq, Repr, Inhabited

/-- All settings. -/
structure Settings where
  pool : PoolSettings := {}
  stress : StressSettings := {}
  deriving DecidableEq, Repr, Inhabited

/-! ## Limits that make sense -/

/-- A limit that nothing could be sent under. -/
inductive ZeroLimit
  | connections
  | streams
  deriving DecidableEq, Repr, Inhabited

/-- The wording of a zero limit. -/
def ZeroLimit.message : ZeroLimit → String
  | .connections => "pool.max_connections must be at least 1"
  | .streams => "pool.max_concurrent_streams must be at least 1"

/-- Checks that neither limit is zero; the connections are checked first. -/
def Settings.validate (settings : Settings) : Except ZeroLimit Unit :=
  if settings.pool.maxConnections = 0 then .error .connections
  else if settings.pool.maxStreams = 0 then .error .streams
  else .ok ()

theorem Settings.validate_eq_ok_iff (settings : Settings) :
    settings.validate = .ok () ↔
      0 < settings.pool.maxConnections ∧ 0 < settings.pool.maxStreams := by
  unfold validate
  by_cases hconnections : settings.pool.maxConnections = 0
  · simp [hconnections]
  · by_cases hstreams : settings.pool.maxStreams = 0
    · simp [hconnections, hstreams]
    · simp only [if_neg hconnections, if_neg hstreams, true_iff]
      omega

end Multiplex
