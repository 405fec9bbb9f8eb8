import Multiplex.Proofs.Pool.Turns

/-!
# What stays true whatever the surroundings do

The surroundings may call back into a network in the middle of an operation, where nothing is
as it is before and after.  This file is about conditions that hold there too.

A condition on connections and pools *endures* a reaction if it does not depend on anything
else, if it does not depend on channels, handles and releases either, and if the reaction keeps
it at every moment.  Then every operation keeps it that runs amid such surroundings and neither
opens nor closes a connection.  To close a connection is to shut it, that is to mark it as
closed and to tell its destination, and then to do what keeps every such condition
(`Endures.close`); to connect is to add a connection and to react (`Endures.attach`).

Nothing is assumed of what the reaction does, so it may do again whatever keeps the condition.
-/

namespace Multiplex

/-- A pool that lists what it listed, in some order, and has given out no number twice. -/
structure Pool.Stays (before after : Pool) : Prop where
  listed : after.listed.Perm before.listed
  opened : before.opened ≤ after.opened
  maxConnections : after.maxConnections = before.maxConnections

theorem Pool.Stays.refl (pool : Pool) : pool.Stays pool :=
  ⟨.refl _, Nat.le_refl _, rfl⟩

theorem Connection.Berths.refl (connection : Connection) : connection.Berths connection :=
  (Connection.Stays.refl connection).berths

namespace Network

variable {α : Type}

/-- A condition on connections and pools that operations keep amid surroundings that react. -/
structure Endures (react : Reaction α) (condition : Network α → Prop) : Prop where
  congr : ∀ {first second : Network α}, condition first →
    second.connection? = first.connection? → second.pool? = first.pool? →
    second.surroundings = first.surroundings → condition second
  modifyConnection : ∀ {network : Network α} (key : ConnectionKey)
    {change : Connection → Connection}, (∀ found : Connection, found.Berths (change found)) →
    condition network → condition (network.modifyConnection key change)
  modifyPool : ∀ {network : Network α} (place : PoolKey) {change : Pool → Pool},
    (∀ found : Pool, found.Stays (change found)) → condition network →
    condition (network.modifyPool place change)
  react : ∀ {network : Network α} (moment : Moment), condition network →
    condition (react moment network)

/-- Marks a connection as closed and tells its destination. -/
def shut (react : Reaction α) (network : Network α) (key : ConnectionKey) : Network α :=
  ((network.modifyConnection key fun found => { found with isClosed := true }).retainConnection
    key).announceRemoval react key

namespace Endures

variable {react : Reaction α} {condition : Network α → Prop} {network : Network α}
  (hendures : Endures react condition)
include hendures

/-! ## Sessions and destinations -/

theorem resetStream (session : SessionKey) (stream : StreamId) (code : ErrorCode)
    (hkept : condition network) : condition (network.resetStream react session stream code) := by
  unfold Network.resetStream
  split
  next => exact hkept
  next =>
    split
    next => exact hendures.congr hkept rfl rfl rfl
    next => exact hendures.react _ (hendures.congr hkept rfl rfl rfl)

theorem closeSession (session : SessionKey) (code : ErrorCode) (reason : String)
    (hkept : condition network) :
    condition (network.closeSession react session code reason).1 := by
  unfold Network.closeSession
  split
  next => exact hkept
  next =>
    split
    next => exact hendures.congr hkept rfl rfl rfl
    next => exact hendures.react _ (hendures.congr hkept rfl rfl rfl)

theorem attach (session : SessionKey) (key : ConnectionKey) (hkept : condition network) :
    condition (network.attach react session key) := by
  unfold Network.attach
  split
  next => exact hkept
  next =>
    dsimp only
    split
    next => exact hendures.congr hkept rfl rfl rfl
    next => exact hendures.react _ (hendures.congr hkept rfl rfl rfl)

theorem countRelease (place : PoolKey) (id : ConnectionId) (hkept : condition network) :
    condition (network.countRelease place id) := by
  refine hendures.modifyPool place (fun pool => ?_) hkept
  split <;> exact ⟨.refl _, Nat.le_refl _, rfl⟩

theorem announceRelease (key : ConnectionKey) (hkept : condition network) :
    condition (network.announceRelease react key) := by
  have hnoted : condition (network.note (.released key)) := hendures.congr hkept rfl rfl rfl
  unfold Network.announceRelease
  split
  next => exact hkept
  next connection _ =>
    split
    next => exact hkept
    next => exact hendures.react _ hnoted
    next pool _ => exact hendures.countRelease pool connection.id hnoted

/-! ## Channels and exchanges -/

theorem takeBack (key : ConnectionKey) (id : ChannelId) (hkept : condition network) :
    condition (network.takeBack react key id) := by
  unfold Network.takeBack
  split
  next => exact hkept
  next =>
    split
    next =>
      have hdropped : condition (network.modifyConnection key fun found => found.drop id) :=
        hendures.modifyConnection key (fun _ => ⟨rfl, rfl, fun _ => Iff.rfl⟩) hkept
      dsimp only
      split
      next => exact hdropped
      next => exact hendures.announceRelease key hdropped
    next => exact hkept

theorem releaseChannel (id : ChannelId) (code : Option ErrorCode) (hkept : condition network) :
    condition (network.releaseChannel react id code) := by
  unfold Network.releaseChannel
  split
  next => exact hkept
  next channel _ =>
    split
    next => exact hkept
    next =>
      extract_lets marked reset emptied
      have hmarked : condition marked := hendures.congr hkept rfl rfl rfl
      have hreset : condition reset := by
        unfold reset
        split
        next => exact hendures.resetStream _ _ _ hmarked
        next => exact hmarked
      have hemptied : condition emptied := hendures.congr hreset rfl rfl rfl
      split
      next => exact hemptied
      next key _ =>
        split
        next => exact hendures.takeBack key id hemptied
        next => exact hemptied

theorem abort (target : ExchangeId) (error : ExchangeError) (hkept : condition network) :
    condition (network.abort react target error).1 := by
  unfold Network.abort
  split
  next => exact hkept
  next exchange _ =>
    have hresolved : condition (network.resolve target (.error error)).1 :=
      hendures.congr hkept rfl rfl rfl
    split
    next resolved heq =>
      rw [heq] at hresolved
      exact hresolved
    next resolved heq =>
      rw [heq] at hresolved
      have hunbound : condition (resolved.modifyExchange target fun found =>
          { found with binding := none }) := hendures.congr hresolved rfl rfl rfl
      dsimp only
      split
      next => exact hunbound
      next id _ =>
        split
        next => exact hendures.releaseChannel id _ (hendures.congr hunbound rfl rfl rfl)
        next => exact hunbound

theorem abortCarried (reason : CloseReason) (id : ChannelId) (hkept : condition network) :
    condition (network.abortCarried react reason id) := by
  unfold Network.abortCarried
  split
  next => exact hendures.congr hkept rfl rfl rfl
  next target _ =>
    have haborted := hendures.abort target (.aborted reason) hkept
    exact hendures.congr haborted rfl rfl rfl

theorem abortInOrder (reason : CloseReason) (order : List ChannelId) (hkept : condition network) :
    condition (network.abortInOrder react reason order) := by
  have hretained : condition (order.foldl retainChannel network) := by
    induction order generalizing network with
    | nil => exact hkept
    | cons id rest ih => exact ih (hendures.congr hkept rfl rfl rfl)
  unfold Network.abortInOrder
  generalize order.foldl retainChannel network = retained at hretained
  induction order generalizing retained with
  | nil => exact hretained
  | cons id rest ih => exact ih _ (hendures.abortCarried reason id hretained)

/-! ## Closing -/

theorem abortLive (key : ConnectionKey) (reason : CloseReason) (hkept : condition network) :
    condition (network.abortLive react key reason) := by
  unfold Network.abortLive
  split
  next => exact hkept
  next connection _ =>
    exact hendures.abortInOrder reason connection.live
      (hendures.modifyConnection key (fun _ => ⟨rfl, rfl, fun _ => Iff.rfl⟩) hkept)

/-- Once a connection is shut, the rest of the close keeps the condition. -/
theorem close_of_open {key : ConnectionKey} {connection : Connection}
    (hconnection : network.connection? key = some connection) (hopen : connection.isClosed = false)
    (reason : CloseReason) (hshut : condition (network.shut react key)) :
    condition (network.close react key reason).1 := by
  have hclosed := hendures.closeSession connection.session .noError reason.message hshut
  simp only [Network.close, hconnection, hopen, Bool.false_eq_true, if_false]
  exact hendures.modifyConnection key (fun _ => ⟨rfl, rfl, fun _ => Iff.rfl⟩)
    (hendures.abortLive key reason hclosed)

theorem close (key : ConnectionKey) (reason : CloseReason) (hkept : condition network)
    (hshut : ∀ {connection}, network.connection? key = some connection →
      connection.isClosed = false → condition (network.shut react key)) :
    condition (network.close react key reason).1 := by
  cases hconnection : network.connection? key with
  | none => simpa only [Network.close, hconnection] using hkept
  | some connection =>
      cases hopen : connection.isClosed with
      | true => simpa only [Network.close, hconnection, hopen, if_true] using hkept
      | false =>
          exact hendures.close_of_open hconnection hopen reason (hshut hconnection hopen)

/-! ## Sending -/

theorem openStream (session : SessionKey) (request : Http.Request) (listener : Listener)
    (hkept : condition network) :
    condition (network.openStream react session request listener).1 := by
  unfold Network.openStream
  split
  next => exact hkept
  next =>
    split
    next =>
      dsimp only
      split <;> exact hendures.congr hkept rfl rfl rfl
    next =>
      have hasked := hendures.react (.openingStream session) hkept
      dsimp only
      split
      next =>
        split
        next => exact hasked
        next => exact hendures.react _ (hendures.congr hasked rfl rfl rfl)
      next => exact hasked

theorem giveStream (id : ChannelId) (stream : StreamId) (hkept : condition network) :
    condition (network.giveStream react id stream) := by
  have hgiven : condition (network.modifyChannel id fun found =>
      { found with stream := some stream }) := hendures.congr hkept rfl rfl rfl
  unfold Network.giveStream
  dsimp only
  split
  next => exact hgiven
  next =>
    split
    next => exact hendures.resetStream _ _ _ hgiven
    next => exact hgiven

theorem sendOnChannel (id : ChannelId) (target : ExchangeId) (hkept : condition network) :
    condition (network.sendOnChannel react id target).1 := by
  unfold Network.sendOnChannel
  split
  next channel exchange _ _ =>
    split
    next => exact hkept
    split
    next => exact hkept
    have hbound : condition (network.bind id target) := hendures.congr hkept rfl rfl rfl
    dsimp only
    split
    next => exact hendures.congr hbound rfl rfl rfl
    have hopened := hendures.openStream channel.session exchange.request (.channel id) hbound
    split
    next heq =>
      rw [heq] at hopened
      exact hendures.giveStream id _ hopened
    next heq =>
      rw [heq] at hopened
      exact hendures.congr hopened rfl rfl rfl
  next => exact hkept

theorem sendRegistered (key : ConnectionKey) (id : ChannelId) (target : ExchangeId)
    (hkept : condition network) : condition (network.sendRegistered react key id target).1 := by
  have hsent := hendures.sendOnChannel id target hkept
  unfold Network.sendRegistered
  split
  next heq =>
    rw [heq] at hsent
    exact hendures.congr hsent rfl rfl rfl
  next heq =>
    rw [heq] at hsent
    have hdropped := hendures.modifyConnection key
      (fun found : Connection => (⟨rfl, rfl, fun _ => Iff.rfl⟩ : found.Berths (found.drop id)))
      hsent
    exact hendures.congr hdropped rfl rfl rfl

theorem send (key : ConnectionKey) (target : ExchangeId) (hkept : condition network) :
    condition (network.send react key target).1 := by
  unfold Network.send
  split
  next connection exchange _ _ =>
    split
    next => exact hkept
    dsimp only
    split
    next => exact hendures.congr hkept rfl rfl rfl
    split
    next => exact hendures.congr hkept rfl rfl rfl
    have hmade : condition ((network.modifyExchange target fun found =>
        { found with request := exchange.request.normalize.1 }).addChannel
          (newcomer connection key)).1 := hendures.congr hkept rfl rfl rfl
    have hregistered := hendures.modifyConnection key (fun found : Connection =>
      (⟨rfl, rfl, fun _ => Iff.rfl⟩ : found.Berths (found.register network.nextChannel))) hmade
    exact hendures.sendRegistered key _ target (hendures.congr hregistered rfl rfl rfl)
  next => exact hkept

/-! ## Events -/

theorem finishChannel (id : ChannelId) (outcome : Outcome) (hkept : condition network) :
    condition (network.finishChannel react id outcome) := by
  unfold Network.finishChannel
  split
  next => exact hendures.releaseChannel id none (hendures.congr hkept rfl rfl rfl)
  next => exact hendures.releaseChannel id none hkept

theorem channelHears (id : ChannelId) (event : StreamEvent) (hkept : condition network) :
    condition (network.channelHears react id event) := by
  cases event with
  | response head => exact hendures.congr hkept rfl rfl rfl
  | reset code => exact hendures.finishChannel id _ hkept
  | failure error => exact hendures.finishChannel id _ hkept
  | data piece ended =>
      have hcollected : condition (network.modifyChannel id fun channel =>
          channel.collectBody piece) := hendures.congr hkept rfl rfl rfl
      simp only [Network.channelHears, collectBody]
      split
      next =>
        split
        next => exact hcollected
        next => exact hendures.finishChannel id _ (hendures.congr hcollected rfl rfl rfl)
      next => exact hcollected

theorem hears (listener : Listener) (event : StreamEvent) (hkept : condition network) :
    condition (network.hears react listener event) := by
  cases listener with
  | channel id => exact hendures.channelHears id event hkept
  | observer name => exact hendures.congr hkept rfl rfl rfl

theorem deliver (session : SessionKey) (reply : Reply) (hkept : condition network) :
    condition (network.deliver react session reply) := by
  unfold Network.deliver
  split
  next => exact hkept
  next =>
    split
    next => exact hkept
    next loopback _ =>
      split
      next => exact hkept
      next taken listener _ =>
        have htaken : condition (network.setTransport session (.loopback taken)) :=
          hendures.congr hkept rfl rfl rfl
        exact hendures.hears listener _ (hendures.hears listener _ htaken)

theorem deliverDue (hkept : condition network) : condition (network.deliverDue react) := by
  have hsettled : condition network.settle := by
    unfold Network.settle
    generalize network.loopbacks = sessions
    induction sessions generalizing network with
    | nil => exact hkept
    | cons entry rest ih => exact ih (hendures.congr hkept rfl rfl rfl)
  unfold Network.deliverDue
  generalize network.settle = settled at hsettled
  induction network.dueReplies generalizing settled with
  | nil => exact hsettled
  | cons entry rest ih => exact ih _ (hendures.deliver entry.1 entry.2 hsettled)

end Endures

end Network

end Multiplex
