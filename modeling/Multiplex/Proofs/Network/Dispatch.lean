import Multiplex.Proofs.Network.Release

/-!
# What dispatching does

An attempt to send an exchange on a channel ends in one of three ways.  It is turned
down at once, and nothing changes; or the channel is given up, and the exchange is
left unbound; or the exchange is bound to the channel and the channel has a stream.

An attempt to send an exchange on a connection either leaves a new channel that the
connection lists and the exchange is bound to (`Dispatched`), or it leaves the
connections as they were (`Undispatched`).
-/

namespace Multiplex

/-- A channel that was given up before it had a stream. -/
def Channel.giveUp (channel : Channel) : Channel :=
  { channel with released := true, exchange := none }

/-- A channel that carries an exchange over a stream. -/
def Channel.carry (exchange : ExchangeId) (stream : StreamId) (channel : Channel) : Channel :=
  { channel with exchange := some exchange, stream := some stream }

/-- An exchange with another binding. -/
def Exchange.rebind (binding : Option ChannelId) (exchange : Exchange) : Exchange :=
  { exchange with binding }

namespace Network

variable {α : Type}

/-! ## On a channel -/

section OnChannel

variable {network : Network α} {id : ChannelId} {target : ExchangeId} {channel : Channel}
  {exchange : Exchange}

theorem aside_giveStream (network : Network α) (id : ChannelId) (stream : StreamId) :
    Aside (network.modifyChannel id fun found => { found with stream := some stream })
      (network.giveStream quiet id stream) := by
  unfold giveStream
  dsimp only
  split
  · exact .refl _
  · split
    · exact aside_resetStream ..
    · exact .refl _

private theorem trace_giveStream (hchannel : network.channel? id = some channel)
    (stream : StreamId) :
    ∃ resets, (network.giveStream quiet id stream).trace.toList = network.trace.toList ++ resets ∧
      (∀ notice ∈ resets, notice = .streamReset channel.session stream .cancel) ∧
      (channel.cancelled = false → resets = []) := by
  have hfound : (network.modifyChannel id fun found =>
      { found with stream := some stream }).channel? id =
      some { channel with stream := some stream } := by
    rw [channel?_modifyChannel, if_pos rfl, hchannel, Option.map_some]
  simp only [giveStream, hfound]
  cases hcancelled : channel.cancelled with
  | false => exact ⟨[], by simp, by simp, fun _ => rfl⟩
  | true =>
      refine ⟨_, trace_resetStream _ channel.session stream .cancel, fun notice hmem => ?_, by simp⟩
      split at hmem
      · exact List.mem_singleton.mp hmem
      · simp at hmem

/-- An exchange that has its outcome or is under way elsewhere is turned down. -/
theorem sendOnChannel_turnedDown (hexchange : network.exchange? target = some exchange)
    (hdown : exchange.isResolved = true ∨ network.isUnderWay exchange = true) :
    ∃ error, network.sendOnChannel quiet id target = (network, .error error) := by
  unfold sendOnChannel
  split
  next found other hfound hother =>
    rw [hexchange] at hother
    obtain rfl := Option.some.inj hother
    split
    · exact ⟨_, rfl⟩
    next hunresolved =>
      rw [if_pos (hdown.resolve_left hunresolved)]
      exact ⟨_, rfl⟩
  · exact ⟨_, rfl⟩

/-- What is left of a send on a channel once it has come to the session. -/
theorem sendOnChannel_of_asked (react : Reaction α) (hchannel : network.channel? id = some channel)
    (hexchange : network.exchange? target = some exchange)
    (hunresolved : exchange.isResolved = false) (hfree : network.isUnderWay exchange = false)
    (howner : (network.bind id target).ownerIsClosed channel = false) :
    (∀ {opened stream}, (network.bind id target).openStream react channel.session
        exchange.request (.channel id) = (opened, .ok stream) →
        network.sendOnChannel react id target = (opened.giveStream react id stream, .ok stream)) ∧
      ∀ {opened error}, (network.bind id target).openStream react channel.session
        exchange.request (.channel id) = (opened, .error error) →
        network.sendOnChannel react id target =
          (opened.giveUp id target, .error (.session error)) := by
  simp only [sendOnChannel, hchannel, hexchange, hunresolved, hfree, howner, Bool.false_eq_true,
    if_false]
  exact ⟨fun hopened => by rw [hopened], fun hrefused => by rw [hrefused]⟩

theorem aside_giveUp_bind (network : Network α) (id : ChannelId) (target : ExchangeId) :
    Aside ((network.modifyChannel id Channel.giveUp).modifyExchange target
      (Exchange.rebind none)) ((network.bind id target).giveUp id target) := by
  refine ⟨?_, ?_, rfl, ?_, fun _ => rfl, fun _ => rfl⟩
  · funext other
    simp only [giveUp, bind, exchange?_modifyExchange, modifyChannel_frame]
    split
    · cases network.exchange? other <;> rfl
    · rfl
  · funext other
    simp only [giveUp, bind, channel?_modifyChannel, modifyExchange_frame]
    split
    · cases network.channel? other <;> rfl
    · rfl
  · simp [giveUp, bind]

private theorem aside_giveStream_bind (network : Network α) (id : ChannelId) (target : ExchangeId)
    (stream : StreamId) :
    Aside ((network.modifyChannel id (Channel.carry target stream)).modifyExchange target
      (Exchange.rebind (some id)))
      ((network.bind id target).modifyChannel id fun found =>
        { found with stream := some stream }) := by
  refine ⟨?_, ?_, rfl, ?_, fun _ => rfl, fun _ => rfl⟩
  · funext other
    simp only [bind, exchange?_modifyExchange, modifyChannel_frame]
    rfl
  · funext other
    simp only [bind, channel?_modifyChannel, modifyExchange_frame]
    split
    · cases network.channel? other <;> rfl
    · rfl
  · simp [bind]

/-- Any other exchange is bound to the channel, and stays bound if a stream was
opened. -/
theorem sendOnChannel_cases (hchannel : network.channel? id = some channel)
    (hexchange : network.exchange? target = some exchange)
    (hunresolved : exchange.isResolved = false) (hfree : network.isUnderWay exchange = false) :
    (∃ error final, network.sendOnChannel quiet id target = (final, .error error) ∧
      Aside ((network.modifyChannel id Channel.giveUp).modifyExchange target
        (Exchange.rebind none)) final ∧ final.trace = network.trace) ∨
    (∃ stream final, network.sendOnChannel quiet id target = (final, .ok stream) ∧
      Aside ((network.modifyChannel id (Channel.carry target stream)).modifyExchange target
        (Exchange.rebind (some id))) final ∧
      (∀ session, network.session? channel.session = some session →
        session.transport.isClosed = false) ∧
      ∃ resets, final.trace.toList = network.trace.toList ++
          .streamOpened channel.session stream exchange.request :: resets ∧
        (∀ notice ∈ resets, notice = .streamReset channel.session stream .cancel) ∧
        (channel.cancelled = false → resets = [])) := by
  have hbound : (network.bind id target).channel? id =
      some { channel with exchange := some target } := by
    simp [bind, channel?_modifyChannel, hchannel]
  simp only [sendOnChannel, hchannel, hexchange, hunresolved, hfree, Bool.false_eq_true,
    if_false]
  split
  · exact .inl ⟨_, _, rfl, aside_giveUp_bind network id target, rfl⟩
  · have haside := aside_openStream (network.bind id target) channel.session exchange.request
      (.channel id)
    have htrace := trace_openStream (network.bind id target) channel.session exchange.request
      (.channel id)
    split
    next opened stream heq =>
      simp only [heq] at haside htrace
      refine .inr ⟨stream, _, rfl, ?_, fun session hsession => ?_, ?_⟩
      · exact (aside_giveStream_bind network id target stream).trans
          ((haside.modifyChannel id _).trans (aside_giveStream opened id stream))
      · cases hclosed : session.transport.isClosed with
        | false => rfl
        | true =>
            have hthere : (network.bind id target).session? channel.session = some session :=
              hsession
            obtain ⟨error, hrefused⟩ := openStream_of_isClosed _ hthere hclosed exchange.request
              (.channel id)
            simp [heq] at hrefused
      · have hopened : opened.channel? id = some { channel with exchange := some target } := by
          rw [haside.channel?, hbound]
        obtain ⟨resets, hlist, honly, hnone⟩ := trace_giveStream hopened stream
        refine ⟨resets, ?_, honly, hnone⟩
        rw [hlist, htrace]
        simp [bind]
    next opened error heq =>
      simp only [heq] at haside htrace
      refine .inl ⟨_, _, rfl, ?_, htrace⟩
      exact (aside_giveUp_bind network id target).trans
        ((haside.modifyChannel id _).modifyExchange target _)

end OnChannel

/-! ## On a connection -/

/-- The channel over which an exchange travels on a connection. -/
def carrier (connection : Connection) (key : ConnectionKey) (target : ExchangeId)
    (stream : StreamId) : Channel where
  connection := connection.id
  owner := some key
  session := connection.session
  exchange := some target
  stream := some stream

/-- A new channel of a connection, which the send that made it still holds. -/
def newcomer (connection : Connection) (key : ConnectionKey) : Channel where
  connection := connection.id
  owner := some key
  session := connection.session
  handles := 1

/-- In the second network an exchange of the first is bound to a new channel, which a
connection lists and which has a stream. -/
structure Dispatched (first second : Network α) (key : ConnectionKey)
    (connection : Connection) (target : ExchangeId) (exchange : Exchange) (stream : StreamId) :
    Prop where
  opened : connection.isClosed = false
  unresolved : exchange.isResolved = false
  free : first.isUnderWay exchange = false
  accepting : ∀ session, first.session? connection.session = some session →
    session.transport.isClosed = false
  exchange? : ∀ other, second.exchange? other =
    if other = target then
      some { exchange with
        request := exchange.request.normalize.1, binding := some first.nextChannel }
    else first.exchange? other
  channel? : ∀ other, second.channel? other =
    if other = first.nextChannel then some (carrier connection key target stream)
    else first.channel? other
  connection? : ∀ other, second.connection? other =
    if other = key then some (connection.register first.nextChannel)
    else first.connection? other
  session : ∀ key, (second.session? key).map Session.outline =
    (first.session? key).map Session.outline
  pool : ∀ key, (second.pool? key).map Pool.outline = (first.pool? key).map Pool.outline
  trace : second.trace.toList = first.trace.toList ++
    [.streamOpened connection.session stream exchange.request.normalize.1]

/-- In the second network the connections of the first are as they were.  An exchange
may have another request, and may have lost a binding to a channel that is over; a
channel may have been added that carries nothing. -/
structure Undispatched (first second : Network α) (target : ExchangeId) : Prop where
  exchange : ∀ other, second.exchange? other = first.exchange? other ∨
    other = target ∧ ∃ found request binding, first.exchange? target = some found ∧
      second.exchange? target = some { found with request, binding } ∧
      (binding = found.binding ∨ binding = none ∧ first.isUnderWay found = false)
  channel : ∀ other, second.channel? other = first.channel? other ∨
    other = first.nextChannel ∧ ∃ found, second.channel? other = some found ∧
      found.handles = 0 ∧ found.exchange = none ∧ found.stream = none
  connection? : second.connection? = first.connection?
  session : ∀ key, (second.session? key).map Session.outline =
    (first.session? key).map Session.outline
  pool : ∀ key, (second.pool? key).map Pool.outline = (first.pool? key).map Pool.outline
  trace : second.trace = first.trace

theorem Undispatched.refl (network : Network α) (target : ExchangeId) :
    Undispatched network network target :=
  ⟨fun _ => .inl rfl, fun _ => .inl rfl, rfl, fun _ => rfl, fun _ => rfl, rfl⟩

section OnConnection

variable {network : Network α} {key : ConnectionKey} {connection : Connection}
  {target : ExchangeId} {exchange : Exchange}

theorem isChannelAlive_congr {first second : Network α} {id : ChannelId}
    (hchannel : second.channel? id = first.channel? id)
    (halive : second.isConnectionAlive = first.isConnectionAlive)
    (hlive : ∀ key, ((second.connection? key).any fun found => found.live.contains id) =
      (first.connection? key).any fun found => found.live.contains id)
    (hknows : ∀ place, ((second.session? place).any fun session =>
      session.transport.knows (.channel id)) =
      (first.session? place).any fun session => session.transport.knows (.channel id)) :
    second.isChannelAlive id = first.isChannelAlive id := by
  simp only [isChannelAlive, hchannel, halive, hlive, hknows]

/-- Where a send has come to when the new channel is about to be dispatched on. -/
def registered (network : Network α) (key : ConnectionKey) (connection : Connection)
    (target : ExchangeId) (request : Http.Request) : Network α :=
  (((network.modifyExchange target fun found => { found with request }).addChannel
    { connection := connection.id, owner := some key, session := connection.session }
    ).1.modifyConnection key fun found => found.register network.nextChannel).retainChannel
      network.nextChannel

/-- A send comes as far as the new channel if the exchange, its request and the connection
allow it. -/
theorem send_eq_sendRegistered (react : Reaction α)
    (hconnection : network.connection? key = some connection)
    (hexchange : network.exchange? target = some exchange)
    (hunresolved : exchange.isResolved = false)
    (hnormalizes : exchange.request.normalize.2 = .ok ())
    (hopen : connection.isClosed = false) :
    network.send react key target =
      (network.registered key connection target exchange.request.normalize.1).sendRegistered
        react key network.nextChannel target := by
  simp only [send, hconnection, hexchange, hunresolved, hnormalizes, hopen, Bool.false_eq_true,
    if_false]
  rfl

/-- Registering a new channel changes nothing about the channels there are. -/
theorem isUnderWay_registered (request : Http.Request)
    (hbinding : ∀ channel, exchange.binding = some channel →
      (network.channel? channel).isSome = true) :
    (network.registered key connection target request).isUnderWay { exchange with request } =
      network.isUnderWay exchange := by
  unfold isUnderWay
  dsimp only
  cases hbound : exchange.binding with
  | none => rfl
  | some channel =>
      -- An exchange is bound to a channel that exists, hence not to the new one.
      have hne : channel ≠ network.nextChannel := by
        intro heq
        have hfound := hbinding channel hbound
        rw [heq, channel?_nextChannel] at hfound
        exact Bool.false_ne_true hfound
      have hchannel : (network.registered key connection target request).channel? channel =
          network.channel? channel := by
        simp [registered, retainChannel, channel?_modifyChannel, channel?_addChannel, hne]
      have halive : (network.registered key connection target request).isChannelAlive channel =
          network.isChannelAlive channel := by
        refine isChannelAlive_congr hchannel ?_ (fun other => ?_) fun _ => rfl
        · simp only [registered, retainChannel, modifyChannel_frame, isConnectionAlive_register,
            isConnectionAlive_addChannel, modifyExchange_frame]
        · simp only [registered, retainChannel, modifyChannel_frame,
            connection?_modifyConnection, addChannel_frame, modifyExchange_frame]
          split
          · cases network.connection? other <;> simp [Connection.register, hne]
          · rfl
      simp only [Option.any_some, hchannel, halive]

/-- What the look-ups find when the new channel is about to be dispatched on. -/
theorem channel?_registered (request : Http.Request) (other : ChannelId) :
    (network.registered key connection target request).channel? other =
      if other = network.nextChannel then some (newcomer connection key)
      else network.channel? other := by
  simp only [registered, retainChannel, channel?_modifyChannel, modifyConnection_frame,
    channel?_addChannel, modifyExchange_frame]
  split
  · rfl
  · rfl

theorem channel?_newcomer (request : Http.Request) :
    (network.registered key connection target request).channel? network.nextChannel =
      some (newcomer connection key) := by
  rw [channel?_registered, if_pos rfl]

theorem exchange?_registered (request : Http.Request) (other : ExchangeId) :
    (network.registered key connection target request).exchange? other =
      if other = target then
        (network.exchange? other).map fun found => { found with request }
      else network.exchange? other := by
  simp only [registered, retainChannel, modifyChannel_frame, modifyConnection_frame,
    addChannel_frame, exchange?_modifyExchange]

theorem connection?_registered (request : Http.Request) (other : ConnectionKey) :
    (network.registered key connection target request).connection? other =
      if other = key then
        (network.connection? other).map fun found => found.register network.nextChannel
      else network.connection? other := by
  simp only [registered, retainChannel, modifyChannel_frame, connection?_modifyConnection,
    addChannel_frame, modifyExchange_frame]

/-- The owner of the new channel is as open as the connection that made it. -/
theorem ownerIsClosed_newcomer (request : Http.Request)
    (hconnection : network.connection? key = some connection)
    (hopen : connection.isClosed = false) :
    ((network.registered key connection target request).bind network.nextChannel
      target).ownerIsClosed (newcomer connection key) = false := by
  have hregistered : (network.registered key connection target request).connection? key =
      some (connection.register network.nextChannel) := by
    rw [connection?_registered, if_pos rfl, hconnection]
    rfl
  have hstays : (connection.register network.nextChannel).isClosed = false := hopen
  simp [ownerIsClosed, newcomer, bind, hregistered, hstays]

/-- Taking back the registration of a channel that carries nothing leaves the exchange
undispatched. -/
theorem undispatched_of_registered {final : Network α} (spent : Channel)
    {binding : Option ChannelId} {request : Http.Request}
    (hconnection : network.connection? key = some connection)
    (hexchange : network.exchange? target = some exchange)
    (hfresh : network.nextChannel ∉ connection.live)
    (hexchange? : ∀ other, final.exchange? other =
      if other = target then some { exchange with request, binding }
      else network.exchange? other)
    (hbinding : binding = exchange.binding ∨
      binding = none ∧ network.isUnderWay exchange = false)
    (hchannel? : ∀ other, final.channel? other =
      if other = network.nextChannel then some spent else network.channel? other)
    (hspent : spent.handles = 1 ∧ spent.exchange = none ∧ spent.stream = none)
    (hconnection? : final.connection? =
      (network.registered key connection target request).connection?)
    (hsession : ∀ key, (final.session? key).map Session.outline =
      (network.session? key).map Session.outline)
    (hpool : ∀ key, (final.pool? key).map Pool.outline = (network.pool? key).map Pool.outline)
    (htrace : final.trace = network.trace) :
    Undispatched network ((final.modifyConnection key fun found =>
      found.drop network.nextChannel).letGoChannel network.nextChannel) target where
  exchange other := by
    simp only [letGoChannel, modifyChannel_frame, modifyConnection_frame, hexchange?]
    split
    next heq => exact .inr ⟨heq, exchange, request, binding, hexchange, by simp, hbinding⟩
    next hne => exact .inl rfl
  channel other := by
    simp only [letGoChannel, channel?_modifyChannel, modifyConnection_frame, hchannel?]
    split
    next heq =>
      refine .inr ⟨heq, _, rfl, ?_, hspent.2.1, hspent.2.2⟩
      simp [hspent.1]
    next hne => exact .inl rfl
  connection? := by
    funext other
    simp only [letGoChannel, modifyChannel_frame, connection?_modifyConnection, hconnection?,
      connection?_registered]
    split
    next heq => simp [heq, hconnection, Connection.drop_register hfresh]
    next hne => rfl
  session := hsession
  pool := hpool
  trace := htrace

private theorem undispatched_of_turnedDown (request : Http.Request)
    (hconnection : network.connection? key = some connection)
    (hexchange : network.exchange? target = some exchange)
    (hfresh : network.nextChannel ∉ connection.live) :
    Undispatched network (((network.registered key connection target request).modifyConnection key
      fun found => found.drop network.nextChannel).letGoChannel network.nextChannel) target := by
  refine undispatched_of_registered (newcomer connection key) hconnection hexchange hfresh
    (fun other => ?_) (.inl rfl) (channel?_registered request) ⟨rfl, rfl, rfl⟩ rfl
    (fun _ => rfl) (fun _ => rfl) rfl
  rw [exchange?_registered]
  split
  next hsame => simp [hsame, hexchange]
  next => rfl

private theorem undispatched_of_givenUp {final : Network α} {request : Http.Request}
    (hconnection : network.connection? key = some connection)
    (hexchange : network.exchange? target = some exchange)
    (hfresh : network.nextChannel ∉ connection.live)
    (hfree : network.isUnderWay exchange = false)
    (haside : Aside (((network.registered key connection target request).modifyChannel
      network.nextChannel Channel.giveUp).modifyExchange target (Exchange.rebind none)) final)
    (htrace : final.trace = network.trace) :
    Undispatched network ((final.modifyConnection key fun found =>
      found.drop network.nextChannel).letGoChannel network.nextChannel) target := by
  refine undispatched_of_registered (newcomer connection key).giveUp hconnection hexchange hfresh
    (fun other => ?_) (.inr ⟨rfl, hfree⟩) (fun other => ?_) ⟨rfl, rfl, rfl⟩ haside.connection?
    haside.session haside.pool htrace
  · simp only [haside.exchange?, exchange?_modifyExchange, modifyChannel_frame,
      exchange?_registered]
    split
    next hsame => simp [hsame, hexchange, Exchange.rebind]
    next => rfl
  · simp only [haside.channel?, modifyExchange_frame, channel?_modifyChannel,
      channel?_registered]
    split
    next => rfl
    next => rfl

private theorem dispatched_of_registered {final : Network α} {stream : StreamId}
    (hconnection : network.connection? key = some connection)
    (hexchange : network.exchange? target = some exchange)
    (hopen : connection.isClosed = false) (hunresolved : exchange.isResolved = false)
    (hfree : network.isUnderWay exchange = false)
    (haccepting : ∀ session, network.session? connection.session = some session →
      session.transport.isClosed = false)
    (haside : Aside (((network.registered key connection target
        exchange.request.normalize.1).modifyChannel network.nextChannel
        (Channel.carry target stream)).modifyExchange target
        (Exchange.rebind (some network.nextChannel))) final)
    (htrace : final.trace.toList = network.trace.toList ++
      [.streamOpened connection.session stream exchange.request.normalize.1]) :
    Dispatched network (final.letGoChannel network.nextChannel) key connection target exchange
      stream where
  opened := hopen
  unresolved := hunresolved
  free := hfree
  accepting := haccepting
  exchange? other := by
    simp only [letGoChannel, modifyChannel_frame, haside.exchange?, exchange?_modifyExchange,
      exchange?_registered]
    split
    next hsame => simp [hsame, hexchange, Exchange.rebind]
    next => rfl
  channel? other := by
    simp only [letGoChannel, channel?_modifyChannel, haside.channel?, modifyExchange_frame,
      channel?_registered]
    split
    next => rfl
    next => rfl
  connection? other := by
    simp only [letGoChannel, modifyChannel_frame, haside.connection?, modifyExchange_frame,
      connection?_registered]
    split
    next hsame => simp [hsame, hconnection]
    next => rfl
  session := haside.session
  pool := haside.pool
  trace := htrace

private theorem sendRegistered_cases (hconnection : network.connection? key = some connection)
    (hexchange : network.exchange? target = some exchange)
    (hbinding : ∀ channel, exchange.binding = some channel →
      (network.channel? channel).isSome = true)
    (hfresh : network.nextChannel ∉ connection.live) (hopen : connection.isClosed = false)
    (hunresolved : exchange.isResolved = false) :
    let ready := network.registered key connection target exchange.request.normalize.1
    (∃ error final,
      ready.sendRegistered quiet key network.nextChannel target = (final, .error error) ∧
        Undispatched network final target) ∨
    ∃ stream final,
      ready.sendRegistered quiet key network.nextChannel target = (final, .ok ()) ∧
        Dispatched network final key connection target exchange stream := by
  intro ready
  have hreached : ready.exchange? target =
      some { exchange with request := exchange.request.normalize.1 } := by
    rw [exchange?_registered, if_pos rfl, hexchange]
    rfl
  have hchannel : ready.channel? network.nextChannel = some (newcomer connection key) :=
    channel?_newcomer _
  have hunderWay : ready.isUnderWay { exchange with request := exchange.request.normalize.1 } =
      network.isUnderWay exchange :=
    isUnderWay_registered _ hbinding
  unfold sendRegistered
  cases hbusy : network.isUnderWay exchange with
  | true =>
      obtain ⟨error, heq⟩ := sendOnChannel_turnedDown hreached (.inr (hunderWay.trans hbusy))
      rw [heq]
      exact .inl ⟨error, _, rfl, undispatched_of_turnedDown _ hconnection hexchange hfresh⟩
  | false =>
      rcases sendOnChannel_cases hchannel hreached hunresolved (hunderWay.trans hbusy) with
        ⟨error, final, heq, haside, htrace⟩ |
        ⟨stream, final, heq, haside, haccepting, resets, htrace, -, hnone⟩
      · rw [heq]
        exact .inl ⟨error, _, rfl,
          undispatched_of_givenUp hconnection hexchange hfresh hbusy haside htrace⟩
      · rw [heq]
        rw [hnone rfl] at htrace
        exact .inr ⟨stream, _, rfl, dispatched_of_registered hconnection hexchange hopen
          hunresolved hbusy haccepting haside htrace⟩

/-- A send either dispatches the exchange or leaves it undispatched. -/
theorem send_cases (hconnection : network.connection? key = some connection)
    (hexchange : network.exchange? target = some exchange)
    (hbinding : ∀ channel, exchange.binding = some channel →
      (network.channel? channel).isSome = true)
    (hfresh : network.nextChannel ∉ connection.live) :
    (∃ error final, network.send quiet key target = (final, .error error) ∧
      Undispatched network final target) ∨
    ∃ stream final, network.send quiet key target = (final, .ok ()) ∧
      Dispatched network final key connection target exchange stream := by
  have hnormalized : ∀ other, (network.modifyExchange target fun found =>
      { found with request := exchange.request.normalize.1 }).exchange? other =
        network.exchange? other ∨ other = target ∧ ∃ found request binding,
      network.exchange? target = some found ∧ (network.modifyExchange target fun found =>
        { found with request := exchange.request.normalize.1 }).exchange? target =
        some { found with request, binding } ∧
      (binding = found.binding ∨ binding = none ∧ network.isUnderWay found = false) := by
    intro other
    simp only [exchange?_modifyExchange]
    split
    next heq =>
      refine .inr ⟨heq, exchange, exchange.request.normalize.1, exchange.binding, hexchange, ?_,
        .inl rfl⟩
      simp [hexchange]
    next => exact .inl rfl
  unfold send
  simp only [hconnection, hexchange]
  split
  next => exact .inl ⟨_, _, rfl, .refl network target⟩
  next hunresolved =>
    split
    next error hverdict =>
      exact .inl ⟨_, _, rfl, hnormalized, fun _ => .inl rfl, rfl, fun _ => rfl, fun _ => rfl,
        rfl⟩
    next hverdict =>
      split
      next hclosed =>
        refine .inl ⟨_, _, rfl, hnormalized, fun other => ?_, rfl, fun _ => rfl, fun _ => rfl,
          rfl⟩
        rw [channel?_addChannel]
        split
        next heq => exact .inr ⟨heq, _, rfl, rfl, rfl, rfl⟩
        next => exact .inl rfl
      next hopen =>
        exact sendRegistered_cases hconnection hexchange hbinding hfresh
          (by simpa using hopen) (by simpa using hunresolved)

end OnConnection

end Network

end Multiplex
