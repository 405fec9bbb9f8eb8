import Multiplex.Network.Delivery
import Multiplex.Network.Pooling
import Multiplex.Settings.Basic

/-!
# Stress runs

A stress run sends numbered exchanges through a pool of loopback connections and
counts how they end.  All exchanges are dispatched before the first response
arrives; the pool may be closed in between, when enough of them were dispatched.
Then either the delay of the responses passes and they are delivered, or the
timeout passes first and what has no outcome yet is aborted, in the order of
dispatch.

A run may break off.  Before anything else it makes room for a handle of each
exchange, so there may be more exchanges than any memory has addresses for; and a
sender may stop without a result.  Then nothing is counted.
-/

namespace Multiplex.Stress

/-! ## Dispatching -/

/-- The request of the exchange with a number. -/
def request (number : Nat) : Http.Request where
  method := .post
  uri := .absolute .https ⟨"loopback"⟩ ⟨"/stress/" ++ toString number⟩
  version := .http11
  fields := .empty
  body := Octets.ofText ("exchange " ++ toString number)

/-- How far a run has come: the exchanges that a connection took, in order, how
many the pool refused, and whether a sender stopped. -/
structure Progress where
  network : Network Unit
  dispatched : Array ExchangeId := #[]
  rejected : Nat := 0
  isBroken : Bool := false

/-- The place of the only pool. -/
def pool : PoolKey := ⟨1⟩

/-- A network with nothing but the pool. -/
def start (settings : Settings) : Progress :=
  let empty : Network Unit := { surroundings := () }
  let factory : Factory :=
    .loopback settings.pool.maxStreams settings.stress.responseDelay.milliseconds echo
  ⟨(empty.addPool
    { name := "stress"
      maxConnections := settings.pool.maxConnections
      maxStreams := settings.pool.maxStreams
      factory }).1, #[], 0, false⟩

/-- Dispatches one exchange, and closes the pool if it is the one after which the
pool is to be closed. -/
def dispatch (closeAfter : Option Nat) : Progress → Nat → Progress
  | ⟨network, dispatched, rejected, isBroken⟩, number =>
    let (network, exchange) := network.addExchange { request := request number }
    match network.sendPooled quiet pool exchange with
    | (network, none) => ⟨network, dispatched, rejected, true⟩
    | (network, some (.error _)) => ⟨network, dispatched, rejected + 1, isBroken⟩
    | (network, some (.ok connection)) =>
      let network := network.letGoConnection connection
      let dispatched := dispatched.push exchange
      let network :=
        if closeAfter = some dispatched.size then network.closePool quiet pool else network
      ⟨network, dispatched, rejected, isBroken⟩

/-- Dispatches all exchanges of a run. -/
def dispatchAll (settings : Settings) : Progress :=
  (List.range settings.stress.exchanges).foldl (dispatch settings.stress.closeAfter)
    (start settings)

/-! ## Waiting -/

/-- Whether the responses arrive before the timeout.  Responses without delay
always do. -/
def isAnswered (stress : StressSettings) : Bool :=
  stress.responseDelay.nanoseconds == 0 ||
    stress.responseDelay.nanoseconds < stress.responseTimeout.nanoseconds

/-- Waits until every exchange has its outcome. -/
def await (settings : Settings) (progress : Progress) : Network Unit :=
  let stress := settings.stress
  if isAnswered stress then
    (progress.network.elapse stress.responseDelay.milliseconds).deliverDue quiet
  else
    progress.dispatched.foldl
      (fun network exchange => (network.abort quiet exchange .timedOut).1)
      (progress.network.elapse stress.responseTimeout.milliseconds)

/-! ## Counting -/

/-- How the exchanges of a run ended, and how many channels were released. -/
structure Summary where
  completed : Nat := 0
  aborted : Nat := 0
  timedOut : Nat := 0
  failed : Nat := 0
  rejected : Nat := 0
  unresolved : Nat := 0
  releases : Nat := 0
  deriving DecidableEq, Repr, Inhabited

namespace Summary

/-- Counts an exchange that was dispatched by its outcome. -/
def count (summary : Summary) (outcome : Option Outcome) : Summary :=
  match outcome with
  | some (.ok _) => { summary with completed := summary.completed + 1 }
  | some (.error (.aborted _)) => { summary with aborted := summary.aborted + 1 }
  | some (.error .timedOut) => { summary with timedOut := summary.timedOut + 1 }
  | some (.error _) => { summary with failed := summary.failed + 1 }
  | none => { summary with unresolved := summary.unresolved + 1 }

/-- How many exchanges are counted. -/
def total (summary : Summary) : Nat :=
  summary.completed + summary.aborted + summary.timedOut + summary.failed + summary.rejected +
    summary.unresolved

/-- The lines in which a summary is reported. -/
def lines (summary : Summary) : List String :=
  ["Exchanges:  " ++ toString summary.total,
    "  completed " ++ toString summary.completed,
    "  aborted   " ++ toString summary.aborted,
    "  timed out " ++ toString summary.timedOut,
    "  failed    " ++ toString summary.failed,
    "  rejected  " ++ toString summary.rejected,
    "Releases:   " ++ toString summary.releases]

end Summary

/-- Counts how the exchanges of a run ended. -/
def summarize (settings : Settings) (progress : Progress) : Summary :=
  let network := await settings progress
  let outcomes := progress.dispatched.map fun exchange =>
    (network.exchange? exchange).bind Exchange.outcome
  outcomes.foldl Summary.count
    { rejected := progress.rejected
      releases := ((network.pool? pool).map Pool.releases).getD 0 }

/-! ## Running -/

/-- Why a run breaks off. -/
inductive Breakdown
  | noRoom
  | senderStopped
  deriving DecidableEq, Repr, Inhabited

/-- How many octets the handle of an exchange takes. -/
def handleSize : Nat := 8

/-- Performs a stress run.  Handles take fewer octets together than half of a 64-bit
address space has. -/
def run (settings : Settings) : Except Breakdown Summary :=
  if Word.bound63 ≤ settings.stress.exchanges * handleSize then .error .noRoom
  else
    let progress := dispatchAll settings
    if progress.isBroken then .error .senderStopped else .ok (summarize settings progress)

end Multiplex.Stress
