import Mathlib.Data.List.Basic
import Multiplex.Proofs.Run.Notices

/-!
# How channels part

A channel that a connection lists ends in one of four ways: its last event arrives, its
exchange is aborted, its connection is closed while somebody waits for its exchange, or its
connection is closed after the exchange was dropped.  No channel ends twice.

Resets and releases are noticed when a channel ends, and at no other time.  An abort resets
the stream, by whomever it comes; the last event and an abort by the owner release the
channel, in the second case after the reset; a close releases nothing.

This is about runs in which channels are made by sends only.
-/

namespace Multiplex

/-- How a channel ends that a connection listed. -/
inductive Ending
  /-- Its last event arrived. -/
  | reported
  /-- Its exchange was aborted. -/
  | cancelled
  /-- Its connection was closed, and its exchange aborted with it. -/
  | cutOff
  /-- Its connection was closed after its exchange had been dropped. -/
  | forgotten
  deriving DecidableEq

/-- Whether a stream reports nothing after an event. -/
def StreamEvent.isLast : StreamEvent → Bool
  | .response _ => false
  | .data _ ended => ended
  | .reset _ => true
  | .failure _ => true

/-- Whether a notice tells of a reset or a release. -/
def Notice.isParting : Notice → Bool
  | .streamReset .. | .released _ => true
  | _ => false

/-- Whether a notice tells of the reset of a stream. -/
def Notice.resets (place : SessionKey) (stream : StreamId) : Notice → Bool
  | .streamReset session found _ => session == place && found == stream
  | _ => false

/-- Whether an exchange is aborted when a channel ends so. -/
def Ending.isAbort : Ending → Bool
  | .cancelled | .cutOff => true
  | .reported | .forgotten => false

/-- Whether the channel is released when it ends so. -/
def Ending.isRelease : Ending → Bool
  | .reported | .cancelled => true
  | .cutOff | .forgotten => false

/-- Whether an operation makes a channel by hand. -/
def Operation.makesChannel : Operation → Bool
  | .makeChannel .. => true
  | _ => false

theorem Channel.isSome_verdict? (channel : Channel) (event : StreamEvent) :
    (channel.verdict? event).isSome = event.isLast := by
  cases event with
  | data piece ended => cases ended <;> rfl
  | response head => rfl
  | reset code => rfl
  | failure error => rfl

/-- A channel of a network that ends in some way. -/
structure Parting (α : Type) where
  network : Network α
  channel : ChannelId
  ending : Ending

namespace Network

variable {α : Type} {first second network : Network α} {key : ConnectionKey} {id : ChannelId}
  {target : ExchangeId} {channel : Channel}

/-- Whether the owner of a channel lists it. -/
def isListed (network : Network α) (id : ChannelId) : Bool :=
  (network.channel? id).any fun channel => channel.owner.any fun key =>
    (network.connection? key).any fun connection => connection.live.contains id

/-- How an exchange that is under way on a connection ends when the connection is closed. -/
def endingByClose (network : Network α) (id : ChannelId) : Ending :=
  if (network.carried? id).isSome then .cutOff else .forgotten

/-- The listed channels that end in a happening, and how. -/
def endings (network : Network α) : Happening → List (ChannelId × Ending)
  | .event id event => if network.isListed id && event.isLast then [(id, .reported)] else []
  | .aborted target _ =>
    if network.isResolved target then [] else
      (((network.exchange? target).bind Exchange.binding).filter network.isListed).toList.map
        fun id => (id, .cancelled)
  | .closed key _ =>
    ((network.connection? key).map Connection.live).getD [] |>.map fun id =>
      (id, network.endingByClose id)
  | _ => []

/-- The partings of a happening. -/
def partingsOf (network : Network α) (happening : Happening) : List (Parting α) :=
  (network.endings happening).map fun (channel, ending) => { network, channel, ending }

/-- The partings of a run, in their order. -/
def partings (network : Network α) : List Operation → List (Parting α)
  | [] => []
  | operation :: rest =>
    network.partingsOf (network.happening operation) ++ (network.undergo operation).partings rest

end Network

namespace Parting

variable {α : Type}

/-- The reset of the stream of a channel. -/
def reset (parting : Parting α) : List Notice :=
  match parting.network.channel? parting.channel with
  | some channel =>
    channel.stream.toList.map fun stream => .streamReset channel.session stream .cancel
  | none => []

/-- The release of a channel, if the destination of its connection is there. -/
def release (parting : Parting α) : List Notice :=
  match (parting.network.channel? parting.channel).bind Channel.owner with
  | some key =>
    if (parting.network.connection? key).any fun connection => connection.destination != .gone then
      [.released key]
    else []
  | none => []

/-- Whether the destination of a connection hears of a release. -/
def releases (key : ConnectionKey) (parting : Parting α) : Bool :=
  parting.ending.isRelease && parting.release.contains (.released key)

/-- What is noticed of a parting. -/
def notices (parting : Parting α) : List Notice :=
  match parting.ending with
  | .reported => parting.release
  | .cancelled => parting.reset ++ parting.release
  | .cutOff => parting.reset
  | .forgotten => []

end Parting

namespace Network

variable {α : Type} {first second network : Network α} {key : ConnectionKey} {id : ChannelId}
  {target : ExchangeId} {channel : Channel}

/-! ## What is listed -/

theorem Sound.isListed_iff (hsound : Sound network) :
    network.isListed id = true ↔ ∃ key, network.Registered key id := by
  constructor
  · intro hlisted
    obtain ⟨channel, -, howner⟩ := (Option.any_eq_true ..).mp hlisted
    obtain ⟨key, -, hany⟩ := (Option.any_eq_true ..).mp howner
    obtain ⟨connection, hconnection, hlive⟩ := (Option.any_eq_true ..).mp hany
    exact ⟨key, connection, hconnection, by simpa using hlive⟩
  · rintro ⟨key, hregistered⟩
    obtain ⟨channel, hchannel⟩ := hsound.coherent.exists_channel hregistered
    obtain ⟨_, _, -, hworks⟩ := hsound.coherent.works_of_registered hregistered hchannel
    obtain ⟨connection, hconnection, hlive⟩ := hregistered
    simp [isListed, hchannel, hworks.owner, hconnection, hlive]

/-- A channel that is there is not listed anew. -/
theorem Coherent.Carries.registered_before {exchange : Exchange} {place : ChannelId}
    (hcarries : Coherent.Carries first second target exchange place channel)
    (hthere : (first.channel? id).isSome = true) (hregistered : second.Registered key id) :
    first.Registered key id := by
  by_cases heq : id = place
  · subst heq
    rcases hcarries.home with ⟨hnone, -⟩ | ⟨-, hnot⟩
    · simp [hnone] at hthere
    · exact absurd hregistered (hnot key)
  · exact hcarries.registered_before_of_ne heq hregistered

theorem registered_before (hsound : Sound network) {operation : Operation}
    (hthere : (network.channel? id).isSome = true)
    (hregistered : (network.undergo operation).Registered key id) : network.Registered key id := by
  rcases ends_or_carries_undergo hsound operation with
    ⟨finished, hends⟩ | ⟨-, target, exchange, place, channel, hcarries⟩
  · exact (hends.registered_before hregistered).1
  · exact hcarries.registered_before hthere hregistered

/-! ## What ends -/

section Endings

variable {ending : Ending} {happening : Happening}

theorem mem_endings_event {place : ChannelId} {event : StreamEvent} :
    (id, ending) ∈ network.endings (.event place event) ↔
      id = place ∧ ending = .reported ∧ network.isListed place = true ∧ event.isLast = true := by
  simp only [endings]
  split
  next hlast =>
    rw [Bool.and_eq_true] at hlast
    simp [hlast]
  next hnot =>
    rw [Bool.and_eq_true] at hnot
    simp only [List.not_mem_nil, false_iff]
    exact fun hand => hnot hand.2.2

theorem mem_endings_aborted {error : ExchangeError} :
    (id, ending) ∈ network.endings (.aborted target error) ↔
      ending = .cancelled ∧ network.isResolved target = false ∧
        (network.exchange? target).bind Exchange.binding = some id ∧
        network.isListed id = true := by
  simp only [endings]
  split
  next hresolved => simp [hresolved]
  next hunresolved =>
    simp only [List.mem_map, Option.mem_toList, Option.filter_eq_some_iff,
      Prod.mk.injEq]
    constructor
    · rintro ⟨place, ⟨hbinding, hlisted⟩, rfl, rfl⟩
      exact ⟨rfl, by simpa using hunresolved, hbinding, hlisted⟩
    · rintro ⟨rfl, -, hbinding, hlisted⟩
      exact ⟨id, ⟨hbinding, hlisted⟩, rfl, rfl⟩

theorem endings_closed {reason : CloseReason} {connection : Connection}
    (hconnection : network.connection? key = some connection) :
    network.endings (.closed key reason) =
      connection.live.map fun id => (id, network.endingByClose id) := by
  simp [endings, hconnection]

/-- What ends in a happening was listed before. -/
theorem registered_of_endings (hsound : Sound network)
    (hmem : (id, ending) ∈ network.endings happening) : ∃ key, network.Registered key id := by
  cases happening with
  | event place event =>
      obtain ⟨rfl, -, hlisted, -⟩ := mem_endings_event.mp hmem
      exact hsound.isListed_iff.mp hlisted
  | aborted target error =>
      obtain ⟨-, -, -, hlisted⟩ := mem_endings_aborted.mp hmem
      exact hsound.isListed_iff.mp hlisted
  | closed key reason =>
      cases hconnection : network.connection? key with
      | none => simp [endings, hconnection] at hmem
      | some connection =>
          rw [endings_closed hconnection] at hmem
          obtain ⟨place, hlive, heq⟩ := List.mem_map.mp hmem
          obtain ⟨rfl, -⟩ := Prod.mk.inj heq
          exact ⟨key, connection, hconnection, hlive⟩
  | _ => simp [endings] at hmem

theorem nodup_endings (hsound : Sound network) (happening : Happening) :
    ((network.endings happening).map Prod.fst).Nodup := by
  cases happening with
  | event place event =>
      simp only [endings]
      split <;> simp
  | aborted target error =>
      simp only [endings]
      split
      · simp
      · cases ((network.exchange? target).bind Exchange.binding).filter network.isListed <;> simp
  | closed key reason =>
      cases hconnection : network.connection? key with
      | none => simp [endings, hconnection]
      | some connection =>
          rw [endings_closed hconnection, List.map_map]
          simpa [Function.comp_def] using hsound.coherent.nodup hconnection
  | _ => simp [endings]

theorem Brings.not_registered (hsound : Sound first) (hstep : Brings first happening second)
    (hmem : (id, ending) ∈ first.endings happening) : ¬ second.Registered key id := by
  intro hregistered
  cases hstep with
  | unheard hchannel =>
      obtain ⟨rfl, -, hlisted, -⟩ := mem_endings_event.mp hmem
      simp [isListed, hchannel] at hlisted
  | absorbed hchannel hverdict =>
      obtain ⟨rfl, -, -, hlast⟩ := mem_endings_event.mp hmem
      rw [← Channel.isSome_verdict?, hverdict] at hlast
      exact Bool.false_ne_true hlast
  | reported _ _ _ hends =>
      obtain ⟨rfl, -⟩ := mem_endings_event.mp hmem
      exact (hends.registered_before hregistered).2 rfl
  | decided hresolved =>
      obtain ⟨-, hunresolved, -⟩ := mem_endings_aborted.mp hmem
      simp [hresolved] at hunresolved
  | withdrawn hexchange _ hbinding =>
      obtain ⟨-, -, hbound, -⟩ := mem_endings_aborted.mp hmem
      simp [hexchange, hbinding] at hbound
  | cancelled hexchange _ _ hbinding _ hends =>
      obtain ⟨-, -, hbound, -⟩ := mem_endings_aborted.mp hmem
      obtain rfl := Option.some.inj ((by simpa [hexchange] using hbound : _ = some id).symm.trans
        hbinding)
      exact (hends.registered_before hregistered).2 rfl
  | closed hconnection _ hcloses =>
      rw [endings_closed hconnection] at hmem
      obtain ⟨place, hlive, heq⟩ := List.mem_map.mp hmem
      obtain ⟨rfl, -⟩ := Prod.mk.inj heq
      have hends := hcloses.ends hsound.coherent hconnection
      exact (hends.registered_before hregistered).2 hlive
  | undispatched | dispatched | unsent | givenUp | sentOn => simp [endings] at hmem

end Endings

/-! ## Channels that nobody holds -/

/-- Nobody holds a channel. -/
def Unheld (network : Network α) : Prop :=
  ∀ id channel, network.channel? id = some channel → channel.handles = 0

/-- A new channel is held by nobody, and it has no stream unless a connection lists it. -/
theorem Brings.channel_new {happening : Happening} (hstep : Brings first happening second)
    {after : Channel} (hbefore : first.channel? id = none)
    (hafter : second.channel? id = some after) :
    after.handles = 0 ∧ (after.stream.isSome = true → ∃ key, second.Registered key id) := by
  cases hstep with
  | unheard | decided | unsent => simp [hbefore] at hafter
  | absorbed => simp [channel?_modifyChannel, hbefore] at hafter
  | reported _ _ hstops => simp [hstops.channel?, hbefore] at hafter
  | withdrawn => simp [hbefore] at hafter
  | cancelled _ _ _ _ hstops => simp [hstops.channel?, hbefore] at hafter
  | closed _ _ hcloses => simp [hcloses.channel?, hbefore] at hafter
  | undispatched _ hundispatched =>
      rcases hundispatched.channel id with hsame | ⟨rfl, found, hfound, hhandles, -, hnone⟩
      · simp [hsame, hbefore] at hafter
      · obtain rfl := Option.some.inj (hafter.symm.trans hfound)
        exact ⟨hhandles, fun hstream => by simp [hnone] at hstream⟩
  | @dispatched key _ connection _ _ _ _ _ _ _ hdispatched =>
      rw [hdispatched.channel?] at hafter
      split at hafter
      next heq =>
        obtain rfl := Option.some.inj hafter
        exact ⟨rfl, fun _ => ⟨key, heq ▸ hdispatched.registered⟩⟩
      next => simp [hbefore] at hafter
  | givenUp _ _ _ _ hhandles => simp [hhandles.channel?, hbefore] at hafter
  | sentOn _ _ _ _ _ _ _ hhandles => simp [hhandles.channel?, hbefore] at hafter

theorem Brings.unheld {happening : Happening} (hsound : Sound first) (hunheld : first.Unheld)
    (hstep : Brings first happening second) : second.Unheld := by
  intro id after hafter
  cases hbefore : first.channel? id with
  | some before =>
      obtain ⟨found, hfound, hages⟩ := (hstep.later hsound).channel hbefore
      obtain rfl := Option.some.inj (hafter.symm.trans hfound)
      exact hages.handles.trans (hunheld id before hbefore)
  | none => exact (hstep.channel_new hbefore hafter).1

theorem channels_attach (network : Network α) (session : SessionKey) (connection : ConnectionKey) :
    (network.attach quiet session connection).channels = network.channels := by
  unfold Network.attach
  split
  · rfl
  · split <;> rfl

/-- Upkeep makes no channels, unless one is made by hand. -/
theorem channels_undergo {operation : Operation}
    (hnothing : network.happening operation = .nothing)
    (hmakes : operation.makesChannel = false) :
    (network.undergo operation).channels = network.channels := by
  cases operation with
  | makeChannel => exact Bool.noConfusion hmakes
  | makeConnection id observed session limit =>
      simp only [Network.undergo]
      split
      · exact channels_attach ..
      · rfl
  | openConnection pool =>
      simp only [Network.undergo]
      split
      · rfl
      · unfold Network.openConnection
        dsimp only
        split
        · rfl
        · exact channels_attach ..
  | moveSession session transport =>
      simp only [Network.undergo, Network.moveSession]
      split
      · rfl
      · split <;> rfl
  | retainConnection connection =>
      simp only [Network.undergo]
      split <;> rfl
  | letGoConnection connection =>
      simp only [Network.undergo, Network.release]
      split <;> rfl
  | retain exchange =>
      simp only [Network.undergo]
      split <;> rfl
  | claim exchange =>
      simp only [Network.undergo, Network.claim]
      split
      · split
        · rfl
        · split <;> rfl
      · rfl
  | hears listener event =>
      cases listener with
      | channel channel => exact Happening.noConfusion hnothing
      | observer name => rfl
  | send | sendOnChannel | abort | close | goAway | failSession =>
      rw [undergo_eq_self rfl hnothing]
  | _ => rfl

theorem Unheld.undergo (hunheld : network.Unheld) (hsound : Sound network) {operation : Operation}
    (hmakes : operation.makesChannel = false) : (network.undergo operation).Unheld := by
  by_cases hnothing : network.happening operation = .nothing
  · intro id channel hchannel
    refine hunheld id channel ?_
    rw [channel?, ← channels_undergo hnothing hmakes]
    exact hchannel
  · exact (brings_undergo hsound hnothing).unheld hsound hunheld

/-! ## What is noticed of a parting -/

section Notices

variable (ending : Ending)

theorem resetNotices_of_registered (hsound : Sound network)
    (hregistered : network.Registered key id) (hchannel : network.channel? id = some channel) :
    network.resetNotices channel (some .cancel) = Parting.reset ⟨network, id, ending⟩ := by
  obtain ⟨connection, _, hconnection, hworks⟩ :=
    hsound.coherent.works_of_registered hregistered hchannel
  obtain ⟨session, hsession, -⟩ := hsound.housed.session hconnection
  obtain ⟨stream, hstream⟩ := Option.isSome_iff_exists.mp hworks.stream
  simp [resetNotices, Parting.reset, hchannel, hstream, hworks.session, hsession]

private theorem releaseNotices_of_owner (hchannel : network.channel? id = some channel)
    (howner : channel.owner = some key) :
    network.releaseNotices key = Parting.release ⟨network, id, ending⟩ := by
  simp [releaseNotices, Parting.release, hchannel, howner]

theorem partingNotices_of_listed (hsound : Sound network) (hlisted : network.isListed id = true)
    (code : Option ErrorCode) :
    ∃ channel key, network.channel? id = some channel ∧ network.Registered key id ∧
      network.partingNotices id code =
        network.resetNotices channel code ++ Parting.release ⟨network, id, ending⟩ := by
  obtain ⟨key, hregistered⟩ := hsound.isListed_iff.mp hlisted
  obtain ⟨channel, hchannel⟩ := hsound.coherent.exists_channel hregistered
  obtain ⟨_, _, -, hworks⟩ := hsound.coherent.works_of_registered hregistered hchannel
  refine ⟨channel, key, hchannel, hregistered, ?_⟩
  rw [← releaseNotices_of_owner ending hchannel hworks.owner]
  exact partingNotices_of_registered hchannel hworks.released hworks.owner hregistered

/-- Nothing is noticed when a channel is released that is not listed, unless its stream is
reset. -/
private theorem partingNotices_of_not_listed (hsound : Sound network)
    (hnot : network.isListed id = false) : network.partingNotices id none = [] := by
  cases hchannel : network.channel? id with
  | none => simp [partingNotices, hchannel]
  | some channel =>
      cases hreleased : channel.released with
      | true => simp [partingNotices, hchannel, hreleased]
      | false =>
          refine partingNotices_of_unregistered hchannel hreleased fun key hregistered => ?_
          have hlisted := hsound.isListed_iff.mpr ⟨key, hregistered⟩
          rw [hnot] at hlisted
          exact Bool.false_ne_true hlisted

private theorem cutNotices_of_live (hsound : Sound network) {connection : Connection}
    (hconnection : network.connection? key = some connection) (hlive : id ∈ connection.live) :
    network.cutNotices id = Parting.notices ⟨network, id, network.endingByClose id⟩ := by
  have hregistered : network.Registered key id := ⟨connection, hconnection, hlive⟩
  obtain ⟨channel, hchannel⟩ := hsound.coherent.exists_channel hregistered
  unfold cutNotices endingByClose
  rw [hchannel]
  dsimp only
  split
  · exact resetNotices_of_registered .cutOff hsound hregistered hchannel
  · rfl

end Notices

/-! ## What is noticed of a step -/

theorem isParting_of_mem_partingNotices {code : Option ErrorCode} {notice : Notice}
    (hmem : notice ∈ network.partingNotices id code) : notice.isParting = true := by
  rcases mem_partingNotices hmem with ⟨session, stream, found, rfl⟩ | ⟨key, rfl, -⟩
  · rfl
  · rfl

/-- The resets and releases that the second network has noticed beyond the first are those
of the partings of a happening. -/
def Notes (first second : Network α) (happening : Happening) : Prop :=
  second.trace.toList.filter Notice.isParting = first.trace.toList.filter Notice.isParting ++
    (first.partingsOf happening).flatMap Parting.notices

theorem notes_of_trace {happening : Happening} {notices : List Notice}
    (htrace : second.trace.toList = first.trace.toList ++ notices)
    (hnotices : notices.filter Notice.isParting =
      (first.partingsOf happening).flatMap Parting.notices) : Notes first second happening := by
  unfold Notes
  rw [htrace, List.filter_append, hnotices]

theorem notes_of_nothing {happening : Happening} {notices : List Notice}
    (htrace : second.trace.toList = first.trace.toList ++ notices)
    (hidle : ∀ notice ∈ notices, notice.isParting = false)
    (hnone : first.endings happening = []) : Notes first second happening := by
  refine notes_of_trace htrace ?_
  rw [partingsOf, hnone, List.map_nil, List.flatMap_nil, List.filter_eq_nil_iff]
  intro notice hmem
  simp [hidle notice hmem]

section OneStep

variable (hsound : Sound first)
include hsound

private theorem notes_event {event : StreamEvent} (hstep : Brings first (.event id event) second) :
    Notes first second (.event id event) := by
  have htrace_self : first.trace.toList = first.trace.toList ++ [] := (List.append_nil _).symm
  cases hstep with
  | unheard hchannel =>
      exact notes_of_nothing htrace_self (by simp) (by simp [endings, isListed, hchannel])
  | @absorbed _ _ channel hchannel hverdict =>
      have hlast : event.isLast = false := by rw [← channel.isSome_verdict?, hverdict]; rfl
      exact notes_of_nothing htrace_self (by simp) (by simp [endings, hlast])
  | @reported _ _ channel outcome _ hchannel hverdict _ _ htrace =>
      have hlast : event.isLast = true := by rw [← channel.isSome_verdict?, hverdict]; rfl
      refine notes_of_trace htrace ?_
      rw [List.filter_eq_self.mpr fun notice hmem => isParting_of_mem_partingNotices hmem]
      cases hlisted : first.isListed id with
      | false => simp [partingNotices_of_not_listed hsound hlisted, partingsOf, endings, hlisted]
      | true =>
          obtain ⟨same, key, -, -, hnotices⟩ :=
            partingNotices_of_listed .reported hsound hlisted none
          rw [hnotices]
          simp [partingsOf, endings, hlisted, hlast, Parting.notices, resetNotices]

private theorem notes_aborted (hunheld : first.Unheld) {error : ExchangeError}
    (hstep : Brings first (.aborted target error) second) :
    Notes first second (.aborted target error) := by
  have htrace_self : first.trace.toList = first.trace.toList ++ [] := (List.append_nil _).symm
  cases hstep with
  | decided hresolved =>
      exact notes_of_nothing htrace_self (by simp) (by simp [endings, hresolved])
  | withdrawn hexchange _ hbinding =>
      exact notes_of_nothing htrace_self (by simp) (by simp [endings, hexchange, hbinding])
  | @cancelled _ _ exchange id _ hexchange hheld hunresolved hbinding _ _ htrace =>
      -- Nobody holds the channel, so it is listed.
      obtain ⟨channel, hchannel, -⟩ := hsound.coherent.bound hexchange hbinding
      have hfree : channel.isHeld = false := by simp [Channel.isHeld, hunheld id channel hchannel]
      obtain ⟨-, hregistered⟩ :=
        hsound.coherent.waiting hexchange hheld hunresolved hbinding hchannel hfree
      have hlisted : first.isListed id = true := hsound.isListed_iff.mpr hregistered
      obtain ⟨same, key, hsame, hhome, hnotices⟩ :=
        partingNotices_of_listed .cancelled hsound hlisted (some .cancel)
      refine notes_of_trace htrace ?_
      rw [List.filter_eq_self.mpr fun notice hmem => isParting_of_mem_partingNotices hmem,
        hnotices, resetNotices_of_registered .cancelled hsound hhome hsame]
      have hendings : first.endings (.aborted target error) = [(id, .cancelled)] := by
        simp [endings, isResolved, hexchange, hunresolved, hbinding, Option.filter, hlisted]
      simp [partingsOf, hendings, Parting.notices]

private theorem notes_closed {reason : CloseReason}
    (hstep : Brings first (.closed key reason) second) :
    Notes first second (.closed key reason) := by
  cases hstep with
  | @closed _ _ connection _ hconnection _ hcloses =>
      obtain ⟨fresh, htrace⟩ := hcloses.trace
      refine notes_of_trace htrace ?_
      have hcut : ∀ notice ∈ connection.live.flatMap first.cutNotices,
          notice.isParting = true := by
        intro notice hmem
        obtain ⟨id, -, hnotice⟩ := List.mem_flatMap.mp hmem
        obtain ⟨session, stream, rfl⟩ := mem_cutNotices hnotice
        rfl
      have hremoved : (if connection.destination = .gone then [] else [Notice.removed key]).filter
          Notice.isParting = [] := by
        split <;> rfl
      calc (first.closeNotices key connection reason fresh).filter Notice.isParting
          = connection.live.flatMap first.cutNotices := by
            rw [closeNotices, List.filter_append, hremoved, List.nil_append,
              List.filter_cons_of_neg (by simp [Notice.isParting]), List.filter_eq_self.mpr hcut]
        _ = connection.live.flatMap fun id =>
              Parting.notices ⟨first, id, first.endingByClose id⟩ :=
            List.flatMap_congr fun id hlive => cutNotices_of_live hsound hconnection hlive
        _ = (first.partingsOf (.closed key reason)).flatMap Parting.notices := by
            rw [partingsOf, endings_closed hconnection, List.map_map, List.flatMap_map]
            rfl

omit hsound in
private theorem notes_sent (hstep : Brings first (.sent key target) second) :
    Notes first second (.sent key target) := by
  cases hstep with
  | undispatched _ hundispatched =>
      have htrace : second.trace.toList = first.trace.toList ++ [] := by
        rw [hundispatched.trace, List.append_nil]
      exact notes_of_nothing htrace (by simp) rfl
  | dispatched _ _ _ _ hdispatched =>
      exact notes_of_nothing hdispatched.trace (by simp [Notice.isParting]) rfl

omit hsound in
private theorem notes_sentOn (hunheld : first.Unheld)
    (hstep : Brings first (.sentOn id target) second) :
    Notes first second (.sentOn id target) := by
  have hnot : ∀ {channel}, first.channel? id = some channel → channel.isHeld = true → False := by
    intro channel hchannel hheld
    simp [Channel.isHeld, hunheld id channel hchannel] at hheld
  cases hstep with
  | unsent => exact notes_of_nothing (List.append_nil _).symm (by simp) rfl
  | givenUp hchannel hheld => exact (hnot hchannel hheld).elim
  | sentOn hchannel hheld => exact (hnot hchannel hheld).elim

/-- The resets and releases of an operation are those of its partings. -/
theorem notes_undergo (hunheld : first.Unheld) (operation : Operation) :
    Notes first (first.undergo operation) (first.happening operation) := by
  by_cases hnothing : first.happening operation = .nothing
  · obtain ⟨notices, htrace, hupkeep⟩ := (Calm.undergo hnothing).trace
    refine notes_of_nothing htrace (fun notice hmem => ?_) (by rw [hnothing]; rfl)
    have hidle := hupkeep notice hmem
    cases notice with
    | released | streamReset => simp [Notice.isUpkeep] at hidle
    | _ => rfl
  · have hstep := brings_undergo hsound hnothing
    cases hhappening : first.happening operation with
    | nothing => exact absurd hhappening hnothing
    | event id event => exact notes_event hsound (hhappening ▸ hstep)
    | sent key target => exact notes_sent (hhappening ▸ hstep)
    | sentOn id target => exact notes_sentOn hunheld (hhappening ▸ hstep)
    | aborted target error => exact notes_aborted hsound hunheld (hhappening ▸ hstep)
    | closed key reason => exact notes_closed hsound (hhappening ▸ hstep)

end OneStep

/-! ## Nothing ends otherwise -/

section Complete

variable {happening : Happening} (hsound : Sound first)
  (hstep : Brings first happening second)
include hsound hstep

/-- What is listed no more after a step has ended in it. -/
theorem Brings.mem_endings (hregistered : first.Registered key id)
    (hnot : ¬ second.Registered key id) : ∃ ending, (id, ending) ∈ first.endings happening := by
  have hlisted : first.isListed id = true := hsound.isListed_iff.mpr ⟨key, hregistered⟩
  -- Whatever ends in this step, the channel is among it.
  have hover : ∀ {finished : ChannelId → Prop}, Ends first second finished → finished id :=
    fun hends => Classical.byContradiction fun hkept =>
      hnot (hends.registered_after hregistered hkept)
  cases hstep with
  | unheard | decided | unsent => exact absurd hregistered hnot
  | absorbed => exact (hover (spares_absorb ..).ends).elim
  | @reported _ event channel outcome _ hchannel hverdict _ hends =>
      obtain rfl := hover hends
      have hlast : event.isLast = true := by rw [← channel.isSome_verdict?, hverdict]; rfl
      exact ⟨_, mem_endings_event.mpr ⟨rfl, rfl, hlisted, hlast⟩⟩
  | withdrawn _ _ _ hends => exact (hover hends).elim
  | cancelled hexchange _ hunresolved hbinding _ hends =>
      obtain rfl := hover hends
      refine ⟨_, mem_endings_aborted.mpr ⟨rfl, ?_, ?_, hlisted⟩⟩
      · simp [isResolved, hexchange, hunresolved]
      · rw [hexchange, Option.bind_some, hbinding]
  | closed hconnection _ hcloses =>
      have hlive := hover (hcloses.ends hsound.coherent hconnection)
      refine ⟨first.endingByClose id, ?_⟩
      rw [endings_closed hconnection]
      exact List.mem_map.mpr ⟨id, hlive, rfl⟩
  | undispatched _ hundispatched => exact (hover hundispatched.spares.ends).elim
  | dispatched _ hconnection hexchange hheld hdispatched =>
      have hcarries := hdispatched.carries hconnection hexchange hsound.coherent hheld
      exact absurd (hcarries.kept hregistered) hnot
  | givenUp hchannel hheld hexchange hfree hhandles =>
      exact (hover (hhandles.spares hsound.coherent hchannel hheld hexchange hfree).ends).elim
  | sentOn hchannel hheld hexchange hkept hunresolved hfree _ hhandles =>
      have hcarries := hhandles.carries hsound.coherent hchannel hheld hexchange hkept
        hunresolved hfree
      exact absurd (hcarries.kept hregistered) hnot

/-- A channel gets its stream when it is listed. -/
theorem Brings.stream_before (hunheld : first.Unheld) {after : Channel}
    (hafter : second.channel? id = some after) (hstream : after.stream.isSome = true)
    (hnot : ∀ key, ¬ second.Registered key id) :
    ∃ before, first.channel? id = some before ∧ before.stream.isSome = true := by
  cases hbefore : first.channel? id with
  | some before =>
      obtain ⟨found, hfound, hages⟩ := (hstep.later hsound).channel hbefore
      obtain rfl := Option.some.inj (hafter.symm.trans hfound)
      have hfree : before.isHeld = false := by simp [Channel.isHeld, hunheld id before hbefore]
      exact ⟨before, rfl, hages.stream hfree ▸ hstream⟩
  | none =>
      obtain ⟨key, hregistered⟩ := (hstep.channel_new hbefore hafter).2 hstream
      exact absurd hregistered (hnot key)

end Complete

end Network

end Multiplex
