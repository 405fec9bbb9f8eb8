import Mathlib.Algebra.Group.Nat.Defs
import Mathlib.Data.List.Nodup
import Multiplex.Proofs.Loopback.Effects

/-!
# Streams and channels in step

A connection lists the channels that are under way, and its loopback session lists the
streams that wait for an answer.  Nobody compares the two lists; they are in step because
every channel is registered before its stream is opened, and because whatever ends a channel
ends its stream.  `Agrees` says how the lists correspond.

## What numbers have to do with it

A session tells its streams apart by their numbers, and these come again after `2 ^ 31`
streams.  Until then every stream that is open has a number of its own, and the two lists are
the same.  Afterwards a new stream may push out an old one, so that a session may list fewer
streams than there are channels, but never more.

## How it is kept

`Bears` says what one step does to a session and to the connection over it, and
`Mirrored.bears` that the lists stay in step.
-/

namespace Multiplex

/-! ## The numbers of streams -/

theorem StreamId.isClientInitiated_iff {stream : StreamId} :
    stream.isClientInitiated = true ↔ stream.number.toNat % 2 = 1 := by
  have hnat : (stream.number % 2).toNat = stream.number.toNat % 2 := by simp
  rw [isClientInitiated, beq_iff_eq, ← UInt32.toNat_inj, hnat]
  rfl

theorem StreamId.toNat_next (stream : StreamId) :
    stream.next.number.toNat = (stream.number.toNat + 2) % 2 ^ 32 := by
  simp [StreamId.next, UInt32.toNat_add]

namespace LoopbackSession

variable {ι : Type} {session before after : LoopbackSession ι} {stream : StreamId} {listener : ι}
  {opened : Nat}

/-- Where every stream is open once, its listener is the one that is found. -/
theorem listener?_of_mem (hmem : (stream, listener) ∈ session.streams)
    (honce : (session.streams.map Prod.fst).Nodup) :
    session.listener? stream = some listener := by
  cases hfound : session.streams.find? fun entry => entry.1 == stream with
  | none => simpa using List.find?_eq_none.mp hfound _ hmem
  | some entry =>
      have hsame : entry.1 = stream := by simpa using List.find?_some hfound
      have hentry : entry = (stream, listener) :=
        List.inj_on_of_nodup_map honce (List.mem_of_find?_eq_some hfound) hmem hsame
      rw [listener?, hfound, hentry]
      rfl

/-- To drop a stream that is not open changes nothing. -/
theorem drop_of_absent (habsent : ∀ entry ∈ session.streams, entry.1 ≠ stream) :
    session.drop stream = session := by
  have hkept : (session.streams.filter fun entry => entry.1 != stream) = session.streams :=
    List.filter_eq_self.mpr fun entry hmem => by simpa using habsent entry hmem
  rw [drop, hkept]

/-- The streams of a session that has opened so many.  Their numbers are odd; a closed session
has none; and as long as no number has come twice, every stream has a number of its own. -/
structure Ordered (session : LoopbackSession ι) (opened : Nat) : Prop where
  next_odd : session.nextStream.isClientInitiated = true
  odd : ∀ entry ∈ session.streams, entry.1.isClientInitiated = true
  clean : session.isClosed = true → session.streams = []
  next : opened < 2 ^ 31 → session.nextStream.number.toNat = 2 * opened + 1
  below : opened < 2 ^ 31 → ∀ entry ∈ session.streams,
    entry.1.number.toNat < session.nextStream.number.toNat
  once : opened < 2 ^ 31 → (session.streams.map Prod.fst).Nodup

theorem IsNew.ordered (hnew : session.IsNew) : session.Ordered 0 where
  next_odd := by rw [hnew.nextStream]; rfl
  odd := by simp [hnew.streams]
  clean _ := hnew.streams
  next _ := by rw [hnew.nextStream]; rfl
  below := by simp [hnew.streams]
  once := by simp [hnew.streams]

namespace Ordered

variable (hordered : before.Ordered opened)
include hordered

theorem alike (halike : before.Alike after) : after.Ordered opened where
  next_odd := by rw [halike.nextStream]; exact hordered.next_odd
  odd := by rw [halike.streams]; exact hordered.odd
  clean := by rw [halike.isClosed, halike.streams]; exact hordered.clean
  next := by rw [halike.nextStream]; exact hordered.next
  below := by rw [halike.nextStream, halike.streams]; exact hordered.below
  once := by rw [halike.streams]; exact hordered.once

/-- Streams may be taken out, as long as a session that is closed has none left. -/
theorem fewer {after : LoopbackSession ι} (hnext : after.nextStream = before.nextStream)
    (hstreams : after.streams.Sublist before.streams)
    (hclean : after.isClosed = true → after.streams = []) : after.Ordered opened where
  next_odd := by rw [hnext]; exact hordered.next_odd
  odd entry hmem := hordered.odd entry (hstreams.subset hmem)
  clean := hclean
  next := by rw [hnext]; exact hordered.next
  below hfew entry hmem := by
    rw [hnext]
    exact hordered.below hfew entry (hstreams.subset hmem)
  once hfew := (hordered.once hfew).sublist (hstreams.map Prod.fst)

theorem drop (stream : StreamId) : (before.drop stream).Ordered opened :=
  hordered.fewer rfl List.filter_sublist fun hclosed => by
    have hempty : before.streams = [] := hordered.clean hclosed
    simp [LoopbackSession.drop, hempty]

theorem close : before.close.1.Ordered opened := by
  unfold LoopbackSession.close
  split
  · exact hordered
  · exact hordered.fewer rfl (List.nil_sublist _) fun _ => rfl

/-- No stream with an even number is open, so a reset drops whatever it is given. -/
theorem reset_eq_drop (stream : StreamId) : before.reset stream = before.drop stream := by
  unfold reset
  split
  · rfl
  next heven =>
    have habsent : ∀ entry ∈ before.streams, entry.1 ≠ stream :=
      fun entry hmem heq => heven (heq ▸ hordered.odd entry hmem)
    exact (drop_of_absent habsent).symm

theorem drop_next (hfew : opened < 2 ^ 31) :
    (before.drop before.nextStream).streams = before.streams := by
  refine congrArg LoopbackSession.streams (drop_of_absent fun entry hmem heq => ?_)
  have hbelow := hordered.below hfew entry hmem
  rw [heq] at hbelow
  exact Nat.lt_irrefl _ hbelow

theorem grown (hopened : before.Opened after stream listener) : after.Ordered (opened + 1) where
  next_odd := by
    have hodd := StreamId.isClientInitiated_iff.mp hordered.next_odd
    rw [StreamId.isClientInitiated_iff, hopened.nextStream, hopened.number, StreamId.toNat_next]
    omega
  odd := by
    intro entry hmem
    rw [hopened.streams, List.mem_append, List.mem_singleton] at hmem
    rcases hmem with hold | rfl
    · exact hordered.odd entry (List.mem_filter.mp hold).1
    · rw [hopened.number]
      exact hordered.next_odd
  clean hclosed := by
    rw [hopened.isClosed, hopened.isOpen] at hclosed
    exact absurd hclosed Bool.false_ne_true
  next hfew := by
    have hnext := hordered.next (by omega)
    rw [hopened.nextStream, hopened.number, StreamId.toNat_next, hnext]
    omega
  below hfew entry hmem := by
    have hnext := hordered.next (by omega)
    have hafter : after.nextStream.number.toNat = 2 * opened + 3 := by
      rw [hopened.nextStream, hopened.number, StreamId.toNat_next, hnext]
      omega
    rw [hopened.streams, List.mem_append, List.mem_singleton] at hmem
    rcases hmem with hold | rfl
    · have hbelow := hordered.below (by omega) entry (List.mem_filter.mp hold).1
      omega
    · rw [hopened.number]
      show before.nextStream.number.toNat < after.nextStream.number.toNat
      omega
  once hfew := by
    have hkept := hordered.drop_next (by omega)
    have hbelow := hordered.below (by omega)
    rw [hopened.streams, hopened.number, hkept, List.map_append, List.nodup_append]
    refine ⟨hordered.once (by omega), by simp, fun number hmem other hother heq => ?_⟩
    obtain ⟨entry, hentry, rfl⟩ := List.mem_map.mp hmem
    have hlast : other = before.nextStream := by simpa using hother
    have hless := hbelow entry hentry
    rw [heq, hlast] at hless
    exact Nat.lt_irrefl _ hless

end Ordered

end LoopbackSession

namespace Network

variable {α : Type} {network first second : Network α} {id : ChannelId} {key : ConnectionKey}
  {connection : Connection} {loopback before after : LoopbackSession Listener}
  {place : SessionKey} {stream : StreamId} {live : List ChannelId} {opened : Nat}

/-! ## The streams of channels -/

/-- The stream of a channel. -/
def stream? (network : Network α) (id : ChannelId) : Option StreamId :=
  (network.channel? id).bind Channel.stream

/-- The streams of several channels, each with the channel as its listener. -/
def streamsOn (network : Network α) (live : List ChannelId) : List (StreamId × Listener) :=
  live.filterMap fun id => (network.stream? id).map fun stream => (stream, .channel id)

@[simp] theorem streamsOn_nil (network : Network α) : network.streamsOn [] = [] := rfl

theorem streamsOn_append (network : Network α) (earlier later : List ChannelId) :
    network.streamsOn (earlier ++ later) = network.streamsOn earlier ++ network.streamsOn later :=
  List.filterMap_append

theorem streamsOn_singleton (hstream : network.stream? id = some stream) :
    network.streamsOn [id] = [(stream, .channel id)] := by
  simp [streamsOn, hstream]

theorem mem_streamsOn {listener : Listener} : (stream, listener) ∈ network.streamsOn live ↔
    ∃ id ∈ live, network.stream? id = some stream ∧ listener = .channel id := by
  simp only [streamsOn, List.mem_filterMap, Option.map_eq_some_iff, Prod.mk.injEq]
  constructor
  · rintro ⟨id, hmem, found, hfound, rfl, rfl⟩
    exact ⟨id, hmem, hfound, rfl⟩
  · rintro ⟨id, hmem, hfound, rfl⟩
    exact ⟨id, hmem, stream, hfound, rfl, rfl⟩

theorem streamsOn_congr (hstream : ∀ id ∈ live, second.stream? id = first.stream? id) :
    second.streamsOn live = first.streamsOn live := by
  refine List.filterMap_congr fun id hmem => ?_
  rw [hstream id hmem]

private theorem streamsOn_filter (network : Network α) (live : List ChannelId) (id : ChannelId) :
    network.streamsOn (live.filter (· != id)) =
      (network.streamsOn live).filter fun entry => entry.2 != .channel id := by
  induction live with
  | nil => rfl
  | cons other rest ih =>
      have hrest : ∀ tail, network.streamsOn (other :: tail) =
          network.streamsOn [other] ++ network.streamsOn tail :=
        fun tail => network.streamsOn_append [other] tail
      have hfirst : ∀ entry ∈ network.streamsOn [other], entry.2 = .channel other := by
        rintro ⟨stream, listener⟩ hmem
        obtain ⟨same, hsame, -, hlistener⟩ := mem_streamsOn.mp hmem
        rw [hlistener, List.mem_singleton.mp hsame]
      rw [hrest rest, List.filter_append, ← ih]
      by_cases heq : other = id
      · have hnone : (network.streamsOn [other]).filter (fun entry => entry.2 != .channel id) =
            [] := List.filter_eq_nil_iff.mpr fun entry hmem => by simp [hfirst entry hmem, heq]
        rw [hnone, List.filter_cons_of_neg (by simp [heq]), List.nil_append]
      · have hall : (network.streamsOn [other]).filter (fun entry => entry.2 != .channel id) =
            network.streamsOn [other] :=
          List.filter_eq_self.mpr fun entry hmem => by simp [hfirst entry hmem, heq]
        rw [hall, List.filter_cons_of_pos (by simp [heq]), hrest]

/-- Where every channel has a stream, there are as many streams as channels. -/
theorem length_streamsOn (hstream : ∀ id ∈ live, (network.stream? id).isSome = true) :
    (network.streamsOn live).length = live.length := by
  induction live with
  | nil => rfl
  | cons id rest ih =>
      obtain ⟨hfirst, hrest⟩ := List.forall_mem_cons.mp hstream
      obtain ⟨stream, hfound⟩ := Option.isSome_iff_exists.mp hfirst
      have hcons : network.streamsOn (id :: rest) =
          network.streamsOn [id] ++ network.streamsOn rest := network.streamsOn_append [id] rest
      rw [hcons, streamsOn_singleton hfound, List.length_append, ih hrest, List.length_singleton,
        List.length_cons, Nat.add_comm]

/-! ## In step -/

/-- The streams of a session that has opened so many are those of the channels that its
connection lists.  Once numbers have come twice, they are some of them. -/
structure Agrees (network : Network α) (connection : Connection)
    (loopback : LoopbackSession Listener) (opened : Nat) : Prop where
  closed : loopback.isClosed = connection.isClosed
  within : loopback.streams.Sublist (network.streamsOn connection.live)
  same : opened < 2 ^ 31 → loopback.streams = network.streamsOn connection.live

namespace Agrees

/-- A session on which nothing is open goes with a connection that lists nothing. -/
theorem fresh (hstreams : loopback.streams = []) (hopen : loopback.isClosed = false)
    (hlive : connection.live = []) (hstatus : connection.isClosed = false) :
    network.Agrees connection loopback opened where
  closed := hopen.trans hstatus.symm
  within := by rw [hstreams, hlive]; exact List.Sublist.refl _
  same _ := by rw [hstreams, hlive]; exact (network.streamsOn_nil).symm

/-- A session and a connection that are closed have nothing open. -/
theorem cut (hordered : before.Ordered opened) (connection : Connection) :
    network.Agrees { connection with isClosed := true, live := [] } before.close.1 opened := by
  have hempty : before.close.1.streams = [] := hordered.close.clean before.isClosed_close
  refine ⟨before.isClosed_close, ?_, fun _ => hempty⟩
  rw [hempty]
  exact List.nil_sublist _

variable (hagrees : first.Agrees connection before opened)
  (hkept : ∀ other ∈ connection.live, second.stream? other = first.stream? other)
include hagrees hkept

theorem kept (halike : before.Alike after) {later : Connection}
    (hlive : later.live = connection.live) (hstatus : later.isClosed = connection.isClosed) :
    second.Agrees later after opened where
  closed := by rw [halike.isClosed, hstatus, hagrees.closed]
  within := by
    rw [halike.streams, hlive, streamsOn_congr hkept]
    exact hagrees.within
  same hfew := by rw [halike.streams, hlive, streamsOn_congr hkept, hagrees.same hfew]

/-- A channel is registered together with its stream. -/
theorem grown (hordered : before.Ordered opened)
    (hopened : before.Opened after stream (.channel id))
    (hstream : second.stream? id = some stream) :
    second.Agrees (connection.register id) after (opened + 1) := by
  have hregistered : second.streamsOn (connection.register id).live =
      first.streamsOn connection.live ++ [(stream, .channel id)] := by
    simp only [Connection.register, streamsOn_append, streamsOn_congr hkept,
      streamsOn_singleton hstream]
  refine ⟨hopened.isClosed.trans hagrees.closed, ?_, fun hfew => ?_⟩
  · rw [hopened.streams, hregistered]
    have hwithin : (before.drop stream).streams.Sublist (first.streamsOn connection.live) :=
      List.filter_sublist.trans hagrees.within
    exact hwithin.append (List.Sublist.refl _)
  · have hbefore : opened < 2 ^ 31 := by omega
    rw [hopened.streams, hregistered, hopened.number, hordered.drop_next hbefore,
      hagrees.same hbefore]

theorem ended (hordered : before.Ordered opened) (hstream : first.stream? id = some stream)
    (halike : (before.drop stream).Alike after) (hlive : id ∈ connection.live) :
    second.Agrees (connection.drop id) after opened := by
  have hsame : second.streamsOn (connection.drop id).live =
      (first.streamsOn connection.live).filter fun entry => entry.2 != .channel id := by
    rw [← streamsOn_filter]
    exact streamsOn_congr fun other hmem => hkept other (List.mem_filter.mp hmem).1
  have hstreams : after.streams = before.streams.filter fun entry => entry.1 != stream :=
    halike.streams
  -- Whatever listens to another stream is another channel.
  have hother : ∀ entry ∈ first.streamsOn connection.live, entry.1 ≠ stream →
      entry.2 ≠ .channel id := by
    rintro ⟨number, listener⟩ hmem hne heq
    obtain ⟨other, -, hfound, hlistener⟩ := mem_streamsOn.mp hmem
    obtain rfl : other = id := Listener.channel.inj (hlistener.symm.trans heq)
    exact hne (Option.some.inj (hfound.symm.trans hstream))
  refine ⟨halike.isClosed.trans hagrees.closed, ?_, fun hfew => ?_⟩
  · have htwice : ((first.streamsOn connection.live).filter fun entry => entry.1 != stream) =
        ((first.streamsOn connection.live).filter fun entry => entry.2 != .channel id).filter
          fun entry => entry.1 != stream := by
      rw [List.filter_filter]
      refine List.filter_congr fun entry hmem => ?_
      by_cases heq : entry.1 = stream
      · simp [heq]
      · simp [heq, hother entry hmem heq]
    rw [hsame, hstreams]
    refine (hagrees.within.filter _).trans ?_
    rw [htwice]
    exact List.filter_sublist
  · have hnodup := hordered.once hfew
    have hthere : (stream, .channel id) ∈ before.streams := by
      rw [hagrees.same hfew]
      exact mem_streamsOn.mpr ⟨id, hlive, hstream, rfl⟩
    rw [hsame, hstreams, ← hagrees.same hfew]
    refine List.filter_congr fun entry hmem => ?_
    -- As long as numbers come once, the number and the listener name the same stream.
    by_cases heq : entry.1 = stream
    · have hentry : entry = (stream, .channel id) := List.inj_on_of_nodup_map hnodup hmem hthere heq
      simp [hentry]
    · have hne := hother entry (hagrees.same hfew ▸ hmem) heq
      rw [bne_iff_ne.mpr heq, bne_iff_ne.mpr hne]

end Agrees

/-! ## How many streams a session has opened -/

end Network

/-- A notice that a session opens a stream. -/
def Notice.opensStream (place : SessionKey) : Notice → Bool
  | .streamOpened session _ _ => session == place
  | _ => false

namespace Network

variable {α : Type} {network first second third : Network α} {id : ChannelId} {key : ConnectionKey}
  {connection : Connection} {loopback before after : LoopbackSession Listener}
  {place : SessionKey} {stream : StreamId}

/-- How many streams a session has opened so far. -/
def streamsOpened (network : Network α) (place : SessionKey) : Nat :=
  network.trace.toList.countP (Notice.opensStream place)

theorem streamsOpened_of_notices {notices : List Notice}
    (htrace : second.trace.toList = first.trace.toList ++ notices)
    (hnone : ∀ notice ∈ notices, notice.opensStream place = false) :
    second.streamsOpened place = first.streamsOpened place := by
  have hzero : notices.countP (Notice.opensStream place) = 0 :=
    List.countP_eq_zero.mpr fun notice hmem => by simp [hnone notice hmem]
  rw [streamsOpened, htrace, List.countP_append, hzero, Nat.add_zero, streamsOpened]

/-! ## One step -/

/-- What a step does to a loopback session, which is `after` in the second network, and to
what goes over it. -/
inductive Affects (first second : Network α) (place : SessionKey)
    (after : LoopbackSession Listener) : Prop
  /-- The session is new, and so is the connection over it, if there is one. -/
  | born : first.session? place = none → after.IsNew →
      (∀ key connection, second.connection? key = some connection → connection.session = place →
        connection.live = [] ∧ connection.isClosed = false) →
      second.streamsOpened place = first.streamsOpened place → Affects first second place after
  /-- Nothing changes, or the session gets its first connection. -/
  | leaves {before : LoopbackSession Listener} : first.loopback? place = some before →
      before.Alike after →
      (∀ key connection, second.connection? key = some connection → connection.session = place →
        (∃ earlier, first.connection? key = some earlier ∧ earlier.session = place ∧
          connection.live = earlier.live ∧ connection.isClosed = earlier.isClosed) ∨
        connection.live = [] ∧ connection.isClosed = false ∧
          ∀ other found, first.connection? other = some found → found.session ≠ place) →
      second.streamsOpened place = first.streamsOpened place → Affects first second place after
  /-- A channel ends, and its stream with it. -/
  | ends {before : LoopbackSession Listener} {key : ConnectionKey} {connection : Connection}
      {id : ChannelId} {stream : StreamId} : first.loopback? place = some before →
      (before.drop stream).Alike after → first.connection? key = some connection →
      connection.session = place → id ∈ connection.live → first.stream? id = some stream →
      (∀ key, second.connection? key = (first.connection? key).map fun found => found.drop id) →
      second.streamsOpened place = first.streamsOpened place → Affects first second place after
  /-- The connection is closed, and the session with it. -/
  | closes {before : LoopbackSession Listener} {key : ConnectionKey} {connection : Connection} :
      first.loopback? place = some before → after = before.close.1 →
      first.connection? key = some connection → connection.session = place →
      (∀ other, second.connection? other =
        if other = key then some { connection with isClosed := true, live := [] }
        else first.connection? other) →
      second.streamsOpened place = first.streamsOpened place → Affects first second place after
  /-- A channel is registered, and its stream opened. -/
  | opens {before : LoopbackSession Listener} {key : ConnectionKey} {connection : Connection}
      {id : ChannelId} {stream : StreamId} : first.loopback? place = some before →
      before.Opened after stream (.channel id) → first.connection? key = some connection →
      connection.session = place → second.stream? id = some stream →
      (∀ other, second.connection? other =
        if other = key then some (connection.register id) else first.connection? other) →
      second.streamsOpened place = first.streamsOpened place + 1 → Affects first second place after

/-- What a step does to a session, whatever moves it: nobody takes hold of its channels, no
second connection goes over it, and a loopback session stays one. -/
structure Bears (first second : Network α) (place : SessionKey) : Prop where
  later : Later first second
  channel : ∀ {id after}, first.channel? id = none → second.channel? id = some after →
    after.session = place → after.isHeld = false
  connection : ∀ {key after}, second.connection? key = some after → after.session = place →
    (∃ before, first.connection? key = some before ∧ before.session = place) ∨
      key = first.nextConnection ∧
        ∀ other found, first.connection? other = some found → found.session ≠ place
  unborn : second.session? place = none →
    second.streamsOpened place = first.streamsOpened place
  stays : ∀ before, first.loopback? place = some before → (second.loopback? place).isSome = true
  affects : ∀ after, second.loopback? place = some after → Affects first second place after

/-- A session over which one connection goes, whose channels nobody holds, is in step with
the connection. -/
structure Mirrored (network : Network α) (place : SessionKey) : Prop where
  unheld : ∀ {id channel}, network.channel? id = some channel → channel.session = place →
    channel.isHeld = false
  alone : ∀ {key other connection found}, network.connection? key = some connection →
    network.connection? other = some found → connection.session = place →
    found.session = place → key = other
  unborn : network.session? place = none → network.streamsOpened place = 0
  ordered : ∀ {loopback}, network.loopback? place = some loopback →
    loopback.Ordered (network.streamsOpened place)
  idle : ∀ {loopback}, network.loopback? place = some loopback →
    (∀ key connection, network.connection? key = some connection → connection.session ≠ place) →
    loopback.streams = [] ∧ loopback.isClosed = false
  agrees : ∀ {loopback key connection}, network.loopback? place = some loopback →
    network.connection? key = some connection → connection.session = place →
    network.Agrees connection loopback (network.streamsOpened place)

/-- Channels that a connection lists keep their streams. -/
theorem Later.stream?_eq (hlater : Later first second) (hcoherent : Coherent first)
    (hconnection : first.connection? key = some connection) (hlive : id ∈ connection.live) :
    second.stream? id = first.stream? id := by
  obtain ⟨channel, target, exchange, hchannel, hworks, -⟩ := hcoherent.works hconnection hlive
  obtain ⟨after, hafter, hages⟩ := hlater.channel hchannel
  rw [stream?, stream?, hchannel, hafter, Option.bind_some, Option.bind_some,
    hages.stream hworks.free]

theorem Later.over_after (hlater : Later first second)
    (hbefore : first.connection? key = some connection) :
    ∃ after, second.connection? key = some after ∧ after.session = connection.session := by
  obtain ⟨after, hafter, hages⟩ := hlater.connection hbefore
  exact ⟨after, hafter, hages.session⟩

namespace Mirrored

variable (hmirrored : Mirrored first place)
include hmirrored

private theorem ordered_of_affects (haffects : Affects first second place after) :
    after.Ordered (second.streamsOpened place) := by
  cases haffects with
  | born hnone hnew _ hopened =>
      rw [hopened, hmirrored.unborn hnone]
      exact hnew.ordered
  | leaves hbefore halike _ hopened =>
      rw [hopened]
      exact (hmirrored.ordered hbefore).alike halike
  | @ends before _ _ _ stream hbefore halike _ _ _ _ _ hopened =>
      rw [hopened]
      exact ((hmirrored.ordered hbefore).drop stream).alike halike
  | closes hbefore hafter _ _ _ hopened =>
      rw [hopened, hafter]
      exact (hmirrored.ordered hbefore).close
  | opens hbefore hgrown _ _ _ _ hopened =>
      rw [hopened]
      exact (hmirrored.ordered hbefore).grown hgrown

private theorem idle_of_affects (hlater : Later first second)
    (haffects : Affects first second place after)
    (hidle : ∀ key connection, second.connection? key = some connection →
      connection.session ≠ place) : after.streams = [] ∧ after.isClosed = false := by
  have hbefore : ∀ key connection, first.connection? key = some connection →
      connection.session ≠ place := by
    intro key connection hconnection heq
    obtain ⟨found, hfound, hsession⟩ := hlater.over_after hconnection
    exact hidle key found hfound (hsession.trans heq)
  cases haffects with
  | born _ hnew => exact ⟨hnew.streams, hnew.isClosed⟩
  | leaves hthere halike =>
      obtain ⟨hstreams, hopen⟩ := hmirrored.idle hthere hbefore
      exact ⟨halike.streams.trans hstreams, halike.isClosed.trans hopen⟩
  | ends _ _ hconnection hover => exact absurd hover (hbefore _ _ hconnection)
  | closes _ _ hconnection hover => exact absurd hover (hbefore _ _ hconnection)
  | opens _ _ hconnection hover => exact absurd hover (hbefore _ _ hconnection)

private theorem agrees_of_affects (hcoherent : Coherent first) (hlater : Later first second)
    (haffects : Affects first second place after)
    (hconnection : second.connection? key = some connection) (hover : connection.session = place) :
    second.Agrees connection after (second.streamsOpened place) := by
  have hkept : ∀ {key connection}, first.connection? key = some connection →
      ∀ other ∈ connection.live, second.stream? other = first.stream? other :=
    fun hfound other hmem => hlater.stream?_eq hcoherent hfound hmem
  -- Only one connection goes over the session, so it is the one that the step is about.
  have hsame : ∀ {other : ConnectionKey} {found : Connection},
      first.connection? other = some found → found.session = place →
      (∀ before, first.connection? key = some before → before.session = place → key = other) :=
    fun hfound hgoes before hbefore hthen => hmirrored.alone hbefore hfound hthen hgoes
  cases haffects with
  | born _ hnew hfresh hopened =>
      obtain ⟨hlive, hstatus⟩ := hfresh key connection hconnection hover
      exact .fresh hnew.streams hnew.isClosed hlive hstatus
  | leaves hbefore halike hconnections hopened =>
      rw [hopened]
      rcases hconnections key connection hconnection hover with
        ⟨earlier, hearlier, hgoes, hlive, hstatus⟩ | ⟨hlive, hstatus, hidle⟩
      · exact (hmirrored.agrees hbefore hearlier hgoes).kept (hkept hearlier) halike hlive hstatus
      · obtain ⟨hstreams, hopen⟩ := hmirrored.idle hbefore hidle
        exact .fresh (halike.streams.trans hstreams) (halike.isClosed.trans hopen) hlive hstatus
  | @ends before other ended id stream hbefore halike hended hgoes hlive hstream hconnections
      hopened =>
      rw [hopened]
      rw [hconnections key] at hconnection
      obtain ⟨earlier, hearlier, rfl⟩ := Option.map_eq_some_iff.mp hconnection
      obtain rfl := hsame hended hgoes earlier hearlier hover
      obtain rfl := Option.some.inj (hearlier.symm.trans hended)
      exact (hmirrored.agrees hbefore hearlier hgoes).ended (hkept hearlier)
        (hmirrored.ordered hbefore) hstream halike hlive
  | @closes before other closed hbefore hafter hclosed hgoes hconnections hopened =>
      rw [hopened, hafter]
      rw [hconnections key] at hconnection
      split at hconnection
      next =>
        obtain rfl := Option.some.inj hconnection
        exact .cut (hmirrored.ordered hbefore) closed
      next hne => exact absurd (hsame hclosed hgoes connection hconnection hover) hne
  | @opens before other sending id stream hbefore hgrown hsending hgoes hstream hconnections
      hopened =>
      rw [hopened]
      rw [hconnections key] at hconnection
      split at hconnection
      next =>
        obtain rfl := Option.some.inj hconnection
        exact (hmirrored.agrees hbefore hsending hgoes).grown (hkept hsending)
          (hmirrored.ordered hbefore) hgrown hstream
      next hne => exact absurd (hsame hsending hgoes connection hconnection hover) hne

/-- A step leaves a session in step with its connection. -/
theorem bears (hcoherent : Coherent first) (hbears : Bears first second place) :
    Mirrored second place where
  unheld := by
    intro id after hafter hover
    cases hbefore : first.channel? id with
    | none => exact hbears.channel hbefore hafter hover
    | some before =>
        obtain ⟨same, hsame, hages⟩ := hbears.later.channel hbefore
        obtain rfl := Option.some.inj (hafter.symm.trans hsame)
        have hunheld := hmirrored.unheld hbefore (hages.session.symm.trans hover)
        rwa [Channel.isHeld, hages.handles]
  alone := by
    intro key other connection found hconnection hfound hgoes hother
    rcases hbears.connection hconnection hgoes with
      ⟨before, hbefore, hthen⟩ | ⟨hkey, hidle⟩
    · rcases hbears.connection hfound hother with ⟨earlier, hearlier, hgone⟩ | ⟨-, hidle⟩
      · exact hmirrored.alone hbefore hearlier hthen hgone
      · exact absurd hthen (hidle _ _ hbefore)
    · rcases hbears.connection hfound hother with ⟨earlier, hearlier, hgone⟩ | ⟨hsame, -⟩
      · exact absurd hgone (hidle _ _ hearlier)
      · exact hkey.trans hsame.symm
  unborn hnone := by
    rw [hbears.unborn hnone]
    refine hmirrored.unborn ?_
    cases hbefore : first.session? place with
    | none => rfl
    | some before =>
        obtain ⟨after, hafter, -⟩ := hbears.later.session hbefore
        simp [hnone] at hafter
  ordered hloopback := hmirrored.ordered_of_affects (hbears.affects _ hloopback)
  idle hloopback hidle :=
    hmirrored.idle_of_affects hbears.later (hbears.affects _ hloopback) hidle
  agrees hloopback hconnection hover :=
    hmirrored.agrees_of_affects hcoherent hbears.later (hbears.affects _ hloopback) hconnection
      hover

end Mirrored

theorem mirrored_blank (surroundings : α) (place : SessionKey) :
    Mirrored (blank surroundings) place where
  unheld hfound := by simp at hfound
  alone hfound := by simp at hfound
  unborn _ := rfl
  ordered hfound := by simp [loopback?] at hfound
  idle hfound := by simp [loopback?] at hfound
  agrees hfound := by simp [loopback?] at hfound

end Network

end Multiplex
