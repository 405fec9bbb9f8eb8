import Multiplex.Proofs.Loopback.Mirror
import Multiplex.Proofs.Pool.Limits

/-!
# Sessions that belong to one connection

A session is in step with the connection over it as long as nobody else uses the session.
`Respects` says what that means for one operation, and `Respected` for all operations in some
dealings.  Pools and clocks respect every session by themselves, so only what is done from
outside is restricted: nobody registers a second connection with the session, makes a channel
over it by hand, or plays its part towards its channels.

This file is about the operations that come to nothing on connections.  They touch a session
only where they make it, and a loopback session that is respected keeps its streams.
-/

namespace Multiplex

/-- A transport on which nothing has happened yet. -/
def Transport.IsNew : Transport → Prop
  | .loopback session => session.IsNew
  | .recording _ => True

private theorem Factory.isNew_openSession {factory : Factory} {id : ConnectionId}
    {transport : Transport}
    (hprovided : (factory.openSession id).2 = .ok transport) : transport.IsNew := by
  cases factory with
  | loopback limit delay responder =>
      obtain rfl := Except.ok.inj hprovided
      exact ⟨rfl, rfl, rfl⟩
  | recording plan =>
      cases transport with
      | recording => trivial
      | loopback session =>
          cases plan with
          | nil => simp [Factory.openSession] at hprovided
          | cons opening plan => cases opening <;> simp [Factory.openSession] at hprovided

/-- Whether an operation makes or moves sessions, or makes connections. -/
def Operation.isFounding : Operation → Bool
  | .makeSession .. | .moveSession .. | .makeConnection .. | .openConnection _ => true
  | _ => false

namespace Network

variable {α : Type} {network first second third : Network α} {id : ChannelId} {key : ConnectionKey}
  {connection : Connection} {loopback before after : LoopbackSession Listener}
  {place : SessionKey} {stream : StreamId} {operation : Operation} {channel : Channel}
  {target : ExchangeId} {answer : Answering α} {transport : Transport}

/-! ## Who may do what -/

/-- Every channel that listens to a loopback session is one over this session. -/
def Hosts (network : Network α) (session : SessionKey) (loopback : LoopbackSession Listener) :
    Prop :=
  ∀ stream id, (stream, .channel id) ∈ loopback.streams →
    ∃ channel, network.channel? id = some channel ∧ channel.session = session

/-- An operation respects that a session belongs to the connection over it.  Loopback sessions
are made new, and channels listen to their own sessions only.  From outside at most the
answers of the one session change that it has still to give.  To it no second connection is
made and no channel by hand, and nobody but the session tells its channels what they hear. -/
def Respects (network : Network α) (place : SessionKey) : Operation → Prop
  | .makeSession _ transport => transport.IsNew
  | .moveSession session (.loopback after) =>
    (session = place → ∃ before, network.loopback? place = some before ∧ before.Alike after) ∧
      (session ≠ place → network.Hosts session after)
  | .moveSession session (.recording _) => session = place → network.loopback? place = none
  | .makeConnection _ _ session _ => session = place → ∀ key connection,
    network.connection? key = some connection → connection.session ≠ place
  | .makeChannel _ _ session => session ≠ place
  | .hears (.channel id) _ => ∀ channel, network.channel? id = some channel →
    channel.session ≠ place
  | _ => True

/-- In some dealings everybody respects that a session belongs to the connection over it. -/
def Respected (answer : Answering α) (place : SessionKey) : Network α → List Dealing → Prop
  | _, [] => True
  | network, dealing :: rest =>
    (match dealing with
      | .outside operation _ => network.Respects place operation
      | _ => True) ∧
    Respected answer place (network.deal answer dealing) rest

/-! ## What upkeep does to loopback sessions -/

theorem plain_of_nothing (hnothing : network.happening operation = .nothing)
    (hplain : operation.isFounding = false) :
    (network.undergo operation).session? = network.session? ∧
      ∀ key, network.connection? key = none →
        (network.undergo operation).connection? key = none := by
  have hmodify : ∀ (key : ConnectionKey) (change : Connection → Connection) (other : ConnectionKey),
      network.connection? other = none →
        (network.modifyConnection key change).connection? other = none := by
    intro key change other hnone
    rw [connection?_modifyConnection, hnone]
    split <;> rfl
  cases hpublic : operation.isPublic with
  | false =>
      have haloof := aloof_of_nothing hnothing hpublic
      exact ⟨haloof.session?, fun key hnone => (congrFun haloof.connection? key).trans hnone⟩
  | true =>
      cases operation with
      | retainConnection key =>
          simp only [undergo]
          split
          · exact ⟨rfl, hmodify key _⟩
          · exact ⟨rfl, fun _ hnone => hnone⟩
      | letGoConnection key =>
          simp only [undergo, release]
          split
          · exact ⟨rfl, fun _ hnone => hnone⟩
          · exact ⟨rfl, hmodify key _⟩
      | loseDestination key => exact ⟨rfl, hmodify key _⟩
      | makePool | shutPool => exact ⟨rfl, fun _ hnone => hnone⟩
      | makeSession | moveSession | makeConnection | openConnection =>
          exact Bool.noConfusion hplain
      | _ => exact Bool.noConfusion hpublic

theorem connect_eq (network : Network α) (connection : Connection) {found : Session}
    (hsession : network.session? connection.session = some found) :
    (network.connect quiet connection).1 =
      ((network.addConnection connection).1.modifySession connection.session fun found =>
        { found with attached := some network.nextConnection }).note
          (.attached connection.session) :=
  attach_eq (network.addConnection connection).1 hsession network.nextConnection

private theorem loopback?_opens {pool : Pool} {other : PoolKey}
    (hopens : Opens first second other pool transport) (place : SessionKey) :
    Evolves Eq (fun after => first.session? place = none ∧ after.IsNew) (first.loopback? place)
      (second.loopback? place) := by
  by_cases heq : place = first.nextSession
  · subst heq
    have hnone : first.loopback? first.nextSession = none := by
      simp [loopback?]
    rw [hnone]
    cases hafter : second.loopback? first.nextSession with
    | none => exact .none
    | some after =>
        obtain ⟨name, attached, hsession⟩ := loopback?_eq_some.mp hafter
        rw [hopens.session?, if_pos rfl] at hsession
        have htransport : transport = .loopback after :=
          (Session.mk.inj (Option.some.inj hsession)).2.1
        have hnew := Factory.isNew_openSession hopens.provided
        rw [htransport] at hnew
        exact .new ⟨first.session?_nextSession, hnew⟩
  · exact .of_eq (fun _ => rfl) (loopback?_congr ((hopens.session? place).trans (if_neg heq)))

private theorem loopback?_makeSession (network : Network α) (name : String) (hnew : transport.IsNew)
    (place : SessionKey) :
    Evolves Eq (fun after => network.session? place = none ∧ after.IsNew) (network.loopback? place)
      ((network.undergo (.makeSession name transport)).loopback? place) := by
  have hsession := session?_addSession network { name, transport } place
  by_cases heq : place = (network.addSession { name, transport }).2
  · have hnone : network.session? place = none := by rw [heq]; exact session?_addSession_snd ..
    have hbefore : network.loopback? place = none := by simp [loopback?, hnone]
    rw [hbefore]
    cases hafter : (network.undergo (.makeSession name transport)).loopback? place with
    | none => exact .none
    | some after =>
        obtain ⟨found, attached, hthere⟩ := loopback?_eq_some.mp hafter
        have hmade := (hsession.trans (if_pos heq)).symm.trans hthere
        have htransport : transport = .loopback after :=
          (Session.mk.inj (Option.some.inj hmade)).2.1
        subst htransport
        exact .new ⟨hnone, hnew⟩
  · exact .of_eq (fun _ => rfl) (loopback?_congr (hsession.trans (if_neg heq)))

private theorem loopback?_moveSession_elsewhere {session : SessionKey} (hne : place ≠ session)
    (transport : Transport) :
    (network.undergo (.moveSession session transport)).loopback? place =
      network.loopback? place := by
  refine loopback?_congr ?_
  simp only [undergo, moveSession]
  split
  · rfl
  · split
    · rfl
    · rw [session?_setTransport, if_neg hne]

/-- A session that is made over stays as it was or is what it is made to be. -/
theorem loopback?_moveSession (hafter :
      (network.undergo (.moveSession place transport)).loopback? place = some after) :
    network.loopback? place = some after ∨ transport = .loopback after := by
  simp only [undergo, moveSession] at hafter
  split at hafter
  · exact .inl hafter
  · split at hafter
    · exact .inl hafter
    · obtain ⟨name, attached, hsession⟩ := loopback?_eq_some.mp hafter
      rw [session?_setTransport, if_pos rfl] at hsession
      obtain ⟨found, -, hmoved⟩ := Option.map_eq_some_iff.mp hsession
      exact .inr (Session.mk.inj hmoved).2.1

/-- Where nobody makes a loopback session over, it stays, and those that come up are new. -/
theorem loopback?_of_nothing (hnothing : network.happening operation = .nothing)
    (hnew : ∀ name transport, operation = .makeSession name transport → transport.IsNew)
    (hmoved : ∀ transport, operation ≠ .moveSession place transport) :
    Evolves Eq (fun after => network.session? place = none ∧ after.IsNew)
      (network.loopback? place) ((network.undergo operation).loopback? place) := by
  cases hfounding : operation.isFounding with
  | false =>
      obtain ⟨hsession, -⟩ := plain_of_nothing hnothing hfounding
      exact .of_eq (fun _ => rfl) (loopback?_congr (congrFun hsession place))
  | true =>
      cases operation with
      | makeSession name transport =>
          exact loopback?_makeSession network name (hnew name transport rfl) place
      | moveSession session transport =>
          have hne : place ≠ session := fun heq => hmoved transport (heq ▸ rfl)
          exact .of_eq (fun _ => rfl) (loopback?_moveSession_elsewhere hne transport)
      | makeConnection number observed session limit =>
          refine .of_eq (fun _ => rfl) ?_
          simp only [undergo]
          split
          next hthere =>
            obtain ⟨found, hfound⟩ := Option.isSome_iff_exists.mp hthere
            rw [connect_eq network _ hfound]
            exact loopback?_attached _ session _ place
          next => rfl
      | openConnection other =>
          simp only [undergo]
          split
          next => exact .of_eq (fun _ => rfl) rfl
          next pool hpool =>
            rcases openConnection_cases hpool with
              ⟨error, final, heq, hmisses⟩ | ⟨transport, final, heq, hopens⟩
            · rw [heq]
              exact .of_eq (fun _ => rfl) (loopback?_congr (congrFun hmisses.session? place))
            · rw [heq]
              exact loopback?_opens hopens place
      | _ => exact Bool.noConfusion hfounding

private theorem alike_of_nothing (hnothing : network.happening operation = .nothing)
    (hrespects : network.Respects place operation) :
    Evolves LoopbackSession.Alike (fun after => network.session? place = none ∧ after.IsNew)
      (network.loopback? place) ((network.undergo operation).loopback? place) := by
  by_cases hmoved : ∃ transport, operation = .moveSession place transport
  · obtain ⟨transport, rfl⟩ := hmoved
    cases transport with
    | loopback moved =>
        obtain ⟨before, hbefore, halike⟩ := hrespects.1 rfl
        obtain ⟨name, attached, hsession⟩ := loopback?_eq_some.mp hbefore
        rw [undergo_moveSession hsession halike.isClosed, loopback?_setTransport hbefore,
          if_pos rfl, hbefore]
        exact .old halike
    | recording moved =>
        have hnone := hrespects rfl
        rw [hnone]
        cases hafter :
            (network.undergo (.moveSession place (.recording moved))).loopback? place with
        | none => exact .none
        | some after =>
            rcases loopback?_moveSession hafter with hbefore | htransport
            · simp [hnone] at hbefore
            · exact absurd htransport (by simp)
  · refine (loopback?_of_nothing hnothing (fun name transport heq => ?_) fun transport heq =>
      hmoved ⟨transport, heq⟩).imp (fun heq => heq ▸ .refl _) fun hnew => hnew
    subst heq
    exact hrespects

/-! ## What upkeep does to connections -/

theorem Calm.streamsOpened (hcalm : Calm first second) (place : SessionKey) :
    second.streamsOpened place = first.streamsOpened place := by
  obtain ⟨notices, htrace, hupkeep⟩ := hcalm.trace
  refine streamsOpened_of_notices htrace fun notice hmem => ?_
  have hidle := hupkeep notice hmem
  cases notice with
  | streamOpened => exact Bool.noConfusion hidle
  | _ => rfl

private theorem bears_of_calm (hhoused : Housed first) (hcalm : Calm first second)
    (hchannel : ∀ {id after}, first.channel? id = none → second.channel? id = some after →
      after.session ≠ place)
    (hconnection : ∀ {key after}, first.connection? key = none →
      second.connection? key = some after → after.session = place →
      key = first.nextConnection ∧
        ∀ other found, first.connection? other = some found → found.session ≠ place)
    (hloopback : Evolves LoopbackSession.Alike
      (fun after => first.session? place = none ∧ after.IsNew)
      (first.loopback? place) (second.loopback? place)) : Bears first second place where
  later := hcalm.later
  channel hnone hafter hover := absurd hover (hchannel hnone hafter)
  connection := by
    intro key after hafter hover
    cases hbefore : first.connection? key with
    | none => exact .inr (hconnection hbefore hafter hover)
    | some before =>
        have hrests := (hcalm.connection key).change_of_some hbefore hafter
        exact .inl ⟨before, rfl, hrests.session.symm.trans hover⟩
  unborn _ := hcalm.streamsOpened place
  stays before hbefore := by
    obtain ⟨after, hafter, -⟩ := hloopback.exists_after hbefore
    rw [hafter]
    rfl
  affects := by
    intro after hafter
    cases hbefore : first.loopback? place with
    | some before =>
        refine .leaves hbefore (hloopback.change_of_some hbefore hafter)
          (fun key connection hthere hover => ?_) (hcalm.streamsOpened place)
        cases hthen : first.connection? key with
        | none =>
            obtain ⟨hlive, hopen⟩ := (hcalm.connection key).fresh_of_none hthen hthere
            exact .inr ⟨hlive, hopen, (hconnection hthen hthere hover).2⟩
        | some earlier =>
            have hrests := (hcalm.connection key).change_of_some hthen hthere
            exact .inl ⟨earlier, rfl, hrests.session.symm.trans hover, hrests.live, hrests.closed⟩
    | none =>
        obtain ⟨hnone, hnew⟩ := hloopback.fresh_of_none hbefore hafter
        refine .born hnone hnew (fun key connection hthere hover => ?_) (hcalm.streamsOpened place)
        cases hthen : first.connection? key with
        | none => exact (hcalm.connection key).fresh_of_none hthen hthere
        | some earlier =>
            have hrests := (hcalm.connection key).change_of_some hthen hthere
            obtain ⟨session, hsession, -⟩ := hhoused.session hthen
            rw [← hrests.session, hover, hnone] at hsession
            exact absurd hsession (by simp)

/-- A connection that upkeep makes is the next one, and goes over a session that is its own if
it is respected. -/
private theorem connection_of_nothing (hhoused : Housed network)
    (hnothing : network.happening operation = .nothing)
    (hrespects : network.Respects place operation) (hnone : network.connection? key = none)
    (hafter : (network.undergo operation).connection? key = some connection)
    (hover : connection.session = place) : key = network.nextConnection ∧
      ∀ other found, network.connection? other = some found → found.session ≠ place := by
  cases hfounding : operation.isFounding with
  | false =>
      obtain ⟨-, hplain⟩ := plain_of_nothing hnothing hfounding
      exact absurd hafter (by simp [hplain key hnone])
  | true =>
      cases operation with
      | makeSession name transport =>
          have hsame : network.connection? key = some connection := hafter
          exact absurd hsame (by simp [hnone])
      | moveSession session transport =>
          obtain ⟨-, hconnection, -, -⟩ := network.moveSession_frame session transport
          have hsame : network.connection? key = some connection :=
            congrFun hconnection key ▸ hafter
          exact absurd hsame (by simp [hnone])
      | makeConnection number observed session limit =>
          simp only [undergo] at hafter
          split at hafter
          next hthere =>
            obtain ⟨found, hfound⟩ := Option.isSome_iff_exists.mp hthere
            rw [connect_eq network _ hfound] at hafter
            have hmade := (connection?_addConnection network _ key).symm.trans hafter
            split at hmade
            next heq =>
              obtain rfl := Option.some.inj hmade
              exact ⟨heq, hrespects hover⟩
            next => exact absurd hmade (by simp [hnone])
          next => exact absurd hafter (by simp [hnone])
      | openConnection other =>
          simp only [undergo] at hafter
          split at hafter
          next => exact absurd hafter (by simp [hnone])
          next pool hpool =>
            rcases openConnection_cases hpool with
              ⟨error, final, heq, hmisses⟩ | ⟨transport, final, heq, hopens⟩
            · rw [heq] at hafter
              exact absurd hafter (by simp [hmisses.connection?, hnone])
            · rw [heq] at hafter
              have hmade := (hopens.connection? key).symm.trans hafter
              split at hmade
              next heq =>
                obtain rfl := Option.some.inj hmade
                -- Connections go over sessions that exist, and this one did not.
                refine ⟨heq, fun another found hfound hsame => ?_⟩
                obtain ⟨session, hsession, -⟩ := hhoused.session hfound
                have hplace : network.nextSession = place := hover
                rw [hsame, ← hplace, session?_nextSession] at hsession
                exact absurd hsession (by simp)
              next => exact absurd hmade (by simp [hnone])
      | _ => exact Bool.noConfusion hfounding

private theorem channel_of_nothing (hnothing : network.happening operation = .nothing)
    (hrespects : network.Respects place operation) (hnone : network.channel? id = none)
    (hafter : (network.undergo operation).channel? id = some channel) :
    channel.session ≠ place := by
  cases hmakes : operation.makesChannel with
  | false =>
      have hsame : (network.undergo operation).channel? id = network.channel? id := by
        simp only [channel?, channels_undergo hnothing hmakes]
      exact absurd hafter (by simp [hsame, hnone])
  | true =>
      cases operation with
      | makeChannel number owner session =>
          simp only [undergo] at hafter
          split at hafter
          next =>
            rw [channel?_addChannel] at hafter
            split at hafter
            next => exact Option.some.inj hafter ▸ hrespects
            next => exact absurd hafter (by simp [hnone])
          next => exact absurd hafter (by simp [hnone])
      | _ => exact Bool.noConfusion hmakes

/-- Whoever respects a session and only tends to the network does it no harm. -/
theorem bears_of_nothing (hhoused : Housed network)
    (hnothing : network.happening operation = .nothing)
    (hrespects : network.Respects place operation) :
    Bears network (network.undergo operation) place := by
  apply bears_of_calm hhoused (Calm.undergo hnothing)
  · intro id channel hnone hafter
    exact channel_of_nothing hnothing hrespects hnone hafter
  · intro key connection hnone hafter hover
    exact connection_of_nothing hhoused hnothing hrespects hnone hafter hover
  · exact alike_of_nothing hnothing hrespects

end Network

end Multiplex
