import Multiplex.Network.Release

/-!
# Stream events

What a stream reports reaches its listener.  A channel collects head and body of
the response until the body ends; the end of the body, a reset and a failure
finish it: its exchange is resolved, if there still is one, and the channel is
released.  Events behind the first of these find no exchange any more.

The responses of a loopback session arrive as a head followed by one piece of
body that is also the last.
-/

namespace Multiplex.Network

variable {α : Type} (react : Reaction α)

/-- Ends a channel with an outcome for the exchange that it carries. -/
def finishChannel (network : Network α) (id : ChannelId) (outcome : Outcome) : Network α :=
  let network := match network.carried? id with
    | some exchange => (network.resolve exchange outcome).1
    | none => network
  network.releaseChannel react id none

/-- A channel takes in a piece of the body; the last piece finishes it. -/
def collectBody (network : Network α) (id : ChannelId) (piece : Octets) (ended : Bool) :
    Network α :=
  let network := network.modifyChannel id fun channel => channel.collectBody piece
  if ended then
    match network.channel? id with
    | none => network
    | some channel =>
      (network.modifyChannel id Channel.forgetCollected).finishChannel react id
        channel.collected
  else network

/-- A channel hears of its stream. -/
def channelHears (network : Network α) (id : ChannelId) (event : StreamEvent) : Network α :=
  match event with
  | .response head => network.modifyChannel id fun channel => channel.collectHead head
  | .data piece ended => network.collectBody react id piece ended
  | .reset code => network.finishChannel react id (.error (.reset code))
  | .failure error => network.finishChannel react id (.error (.stream error))

/-- A listener hears of its stream. -/
def hears (network : Network α) (listener : Listener) (event : StreamEvent) : Network α :=
  match listener with
  | .channel id => network.channelHears react id event
  | .observer name => network.note (.heard name event)

/-! ## The clock -/

/-- Delivers the answer of a loopback session if its stream is still open. -/
def deliver (network : Network α) (key : SessionKey) (reply : Reply) : Network α :=
  match network.session? key with
  | none => network
  | some session =>
    match session.transport with
    | .recording _ => network
    | .loopback loopback =>
      match loopback.take reply.stream with
      | (_, none) => network
      | (loopback, some listener) =>
        let network := network.setTransport key (.loopback loopback)
        let network := network.hears react listener (.response reply.response.head)
        network.hears react listener (.data reply.response.body true)

/-- The sessions that answer by themselves, by their places. -/
def loopbacks (network : Network α) : List (SessionKey × LoopbackSession Listener) :=
  (List.range network.sessions.size).filterMap fun index =>
    let key : SessionKey := ⟨index + 1⟩
    match network.session? key with
    | some ⟨_, .loopback loopback, _⟩ => some (key, loopback)
    | _ => none

/-- The answers whose time has come, in the order in which they are delivered:
by their times, at one time in the order in which their streams were opened. -/
def dueReplies (network : Network α) : List (SessionKey × Reply) :=
  let all := network.loopbacks.flatMap fun (key, loopback) =>
    (loopback.due network.clock).map fun reply => (key, reply)
  all.mergeSort fun first second =>
    first.2.due < second.2.due ||
      (first.2.due == second.2.due && first.2.ticket ≤ second.2.ticket)

/-- Forgets the answers whose time has come. -/
def settle (network : Network α) : Network α :=
  network.loopbacks.foldl (fun network (key, loopback) =>
    network.setTransport key (.loopback (loopback.settle network.clock))) network

/-- Delivers the answers whose time has come. -/
def deliverDue (network : Network α) : Network α :=
  network.dueReplies.foldl (fun network (key, reply) => network.deliver react key reply)
    network.settle

/-- Delivers answers until none is due, in so many rounds at most.  Another round
is needed only where the surroundings opened a stream that is answered at once. -/
def deliverAll (network : Network α) : Nat → Network α
  | 0 => network
  | rounds + 1 =>
    if network.dueReplies.isEmpty then network
    else (network.deliverDue react).deliverAll rounds

/-- Lets time pass. -/
def elapse (network : Network α) (milliseconds : Nat) : Network α :=
  { network with clock := network.clock + milliseconds }

end Multiplex.Network
