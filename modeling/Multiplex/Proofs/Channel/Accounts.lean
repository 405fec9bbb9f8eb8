import Multiplex.Proofs.Channel.Partings

/-!
# What a run accounts for

Every channel that was dispatched on is listed, or it parted once.  The resets and releases
of a run are exactly those of the channels that parted in it, so each of them can be told
from the way in which its channel ended.
-/

namespace Multiplex.Network

variable {α : Type} {first second network : Network α} {key : ConnectionKey} {id : ChannelId}

/-! ## The partings of a run -/

section Runs

variable {operations : List Operation} {parting : Parting α}

theorem mem_partingsOf {happening : Happening} (hmem : parting ∈ network.partingsOf happening) :
    parting.network = network ∧ (parting.channel, parting.ending) ∈ network.endings happening := by
  obtain ⟨⟨channel, ending⟩, hending, rfl⟩ := List.mem_map.mp hmem
  exact ⟨rfl, hending⟩

theorem mem_partings (hmem : parting ∈ network.partings operations) :
    ∃ past operation future, operations = past ++ operation :: future ∧
      parting ∈ (network.run past).partingsOf ((network.run past).happening operation) := by
  induction operations generalizing network with
  | nil => simp [partings] at hmem
  | cons operation rest ih =>
      rcases List.mem_append.mp hmem with hfirst | hlater
      · exact ⟨[], operation, rest, rfl, hfirst⟩
      · obtain ⟨past, other, future, rfl, hparting⟩ := ih hlater
        exact ⟨operation :: past, other, future, rfl, hparting⟩

theorem not_registered_run (hsound : Sound network) (hthere : (network.channel? id).isSome = true)
    (hnot : ∀ key, ¬ network.Registered key id) (operations : List Operation) :
    ∀ key, ¬ (network.run operations).Registered key id := by
  induction operations generalizing network with
  | nil => exact hnot
  | cons operation rest ih =>
      refine ih (hsound.undergo operation) ?_ fun key hregistered => ?_
      · obtain ⟨before, hbefore⟩ := Option.isSome_iff_exists.mp hthere
        obtain ⟨after, hafter, -⟩ := (later_undergo hsound operation).channel hbefore
        rw [hafter, Option.isSome_some]
      · exact hnot key (registered_before hsound hthere hregistered)

/-- A channel that parted in an operation is there afterwards, and nobody lists it. -/
theorem unlisted_of_partingsOf (hsound : Sound network) {operation : Operation}
    (hmem : parting ∈ network.partingsOf (network.happening operation)) :
    ((network.undergo operation).channel? parting.channel).isSome = true ∧
      ∀ key, ¬ (network.undergo operation).Registered key parting.channel := by
  obtain ⟨-, hending⟩ := mem_partingsOf hmem
  obtain ⟨key, hregistered⟩ := registered_of_endings hsound hending
  obtain ⟨channel, hchannel⟩ := hsound.coherent.exists_channel hregistered
  obtain ⟨after, hafter, -⟩ := (later_undergo hsound operation).channel hchannel
  refine ⟨by rw [hafter, Option.isSome_some], fun key => ?_⟩
  have hsome : network.happening operation ≠ .nothing := by
    intro hnothing
    simp [hnothing, endings] at hending
  exact (brings_undergo hsound hsome).not_registered hsound hending

theorem nodup_partings (hsound : Sound network) (operations : List Operation) :
    ((network.partings operations).map Parting.channel).Nodup := by
  induction operations generalizing network with
  | nil => simp [partings]
  | cons operation rest ih =>
      have hnext : Sound (network.undergo operation) := hsound.undergo operation
      rw [partings, List.map_append, List.nodup_append]
      refine ⟨?_, ih hnext, ?_⟩
      · simpa [partingsOf, Function.comp_def] using
          nodup_endings hsound (network.happening operation)
      · rintro place hfirst _ hlater rfl
        obtain ⟨parting, hmem, rfl⟩ := List.mem_map.mp hfirst
        obtain ⟨other, hother, hsame⟩ := List.mem_map.mp hlater
        obtain ⟨hthere, hnot⟩ := unlisted_of_partingsOf hsound hmem
        obtain ⟨past, another, future, rfl, hending⟩ := mem_partings hother
        obtain ⟨key, hregistered⟩ :=
          registered_of_endings (hnext.run past) (mem_partingsOf hending).2
        exact not_registered_run hnext hthere hnot past key (hsame ▸ hregistered)

theorem Unheld.run (hunheld : network.Unheld) (hsound : Sound network)
    (hmakes : ∀ operation ∈ operations, operation.makesChannel = false) :
    (network.run operations).Unheld := by
  induction operations generalizing network with
  | nil => exact hunheld
  | cons operation rest ih =>
      obtain ⟨hfirst, hrest⟩ := List.forall_mem_cons.mp hmakes
      exact ih (hunheld.undergo hsound hfirst) (hsound.undergo operation) hrest

private theorem notices_run (hunheld : network.Unheld) (hsound : Sound network)
    (hmakes : ∀ operation ∈ operations, operation.makesChannel = false) :
    (network.run operations).trace.toList.filter Notice.isParting =
      network.trace.toList.filter Notice.isParting ++
        (network.partings operations).flatMap Parting.notices := by
  induction operations generalizing network with
  | nil => simp [partings]
  | cons operation rest ih =>
      obtain ⟨hfirst, hrest⟩ := List.forall_mem_cons.mp hmakes
      have hnotes : Notes network (network.undergo operation) (network.happening operation) :=
        notes_undergo hsound hunheld operation
      rw [run_cons, ih (hunheld.undergo hsound hfirst) (hsound.undergo operation) hrest, hnotes,
        partings, List.flatMap_append, List.append_assoc]

/-- A channel that parted in a run was listed by its owner and had a stream; it still has the
stream at the end of the run, and nobody lists it. -/
theorem channel_of_partings (hunheld : network.Unheld) (hsound : Sound network)
    (hmakes : ∀ operation ∈ operations, operation.makesChannel = false)
    (hmem : parting ∈ network.partings operations) :
    ∃ channel key stream after, parting.network.channel? parting.channel = some channel ∧
      channel.owner = some key ∧ channel.stream = some stream ∧
      (network.run operations).channel? parting.channel = some after ∧
      after.session = channel.session ∧ after.stream = some stream ∧
      ∀ other, ¬ (network.run operations).Registered other parting.channel := by
  obtain ⟨past, operation, future, rfl, hparting⟩ := mem_partings hmem
  have hthen : Sound (network.run past) := hsound.run past
  have hfree : (network.run past).Unheld := hunheld.run hsound fun other hother =>
    hmakes other (List.mem_append_left _ hother)
  obtain ⟨hsame, hending⟩ := mem_partingsOf hparting
  obtain ⟨key, hregistered⟩ := registered_of_endings hthen hending
  obtain ⟨channel, hchannel⟩ := hthen.coherent.exists_channel hregistered
  obtain ⟨_, _, -, hworks⟩ := hthen.coherent.works_of_registered hregistered hchannel
  obtain ⟨stream, hstream⟩ := Option.isSome_iff_exists.mp hworks.stream
  have hlater : Later (network.run past) (network.run (past ++ operation :: future)) := by
    rw [run_append]
    exact later_run hthen (operation :: future)
  obtain ⟨after, hafter, hages⟩ := hlater.channel hchannel
  obtain ⟨hthere, hnot⟩ := unlisted_of_partingsOf hthen hparting
  refine ⟨channel, key, stream, after, hsame ▸ hchannel, hworks.owner, hstream, hafter,
    hages.session, (hages.stream hworks.free).trans hstream, ?_⟩
  rw [run_append, run_cons]
  exact not_registered_run (hthen.undergo operation) hthere hnot future

private theorem mem_endings_of_unlisted (hsound : Sound network) {operation : Operation}
    (hregistered : network.Registered key id)
    (hnot : ∀ key, ¬ (network.undergo operation).Registered key id) :
    ∃ parting ∈ network.partingsOf (network.happening operation), parting.channel = id := by
  by_cases hnothing : network.happening operation = .nothing
  · have hkept := (Calm.undergo hnothing).ends.registered_after hregistered not_false
    exact absurd hkept (hnot key)
  · obtain ⟨ending, hending⟩ :=
      (brings_undergo hsound hnothing).mem_endings hsound hregistered (hnot key)
    exact ⟨⟨network, id, ending⟩, List.mem_map.mpr ⟨_, hending, rfl⟩, rfl⟩

theorem stream_before (hunheld : network.Unheld) (hsound : Sound network) {operation : Operation}
    (hmakes : operation.makesChannel = false) {after : Channel}
    (hafter : (network.undergo operation).channel? id = some after)
    (hstream : after.stream.isSome = true)
    (hnot : ∀ key, ¬ (network.undergo operation).Registered key id) :
    ∃ before, network.channel? id = some before ∧ before.stream.isSome = true := by
  by_cases hnothing : network.happening operation = .nothing
  · refine ⟨after, ?_, hstream⟩
    rw [channel?, ← channels_undergo hnothing hmakes]
    exact hafter
  · exact (brings_undergo hsound hnothing).stream_before hsound hunheld hafter hstream hnot

/-- A channel that has a stream and that nobody lists had parted before, or it parts in the
run. -/
private theorem exists_parting (hunheld : network.Unheld) (hsound : Sound network)
    (hmakes : ∀ operation ∈ operations, operation.makesChannel = false) {channel : Channel}
    (hchannel : (network.run operations).channel? id = some channel)
    (hstream : channel.stream.isSome = true)
    (hnot : ∀ key, ¬ (network.run operations).Registered key id) :
    (∃ before, network.channel? id = some before ∧ before.stream.isSome = true ∧
      ∀ key, ¬ network.Registered key id) ∨
      ∃ parting ∈ network.partings operations, parting.channel = id := by
  induction operations generalizing network with
  | nil => exact .inl ⟨channel, hchannel, hstream, hnot⟩
  | cons operation rest ih =>
      obtain ⟨hfirst, hrest⟩ := List.forall_mem_cons.mp hmakes
      rcases ih (hunheld.undergo hsound hfirst) (hsound.undergo operation) hrest hchannel hnot with
        ⟨after, hafter, hthen, hunlisted⟩ | ⟨parting, hmem, hparting⟩
      · obtain ⟨before, hbefore, hsome⟩ :=
          stream_before hunheld hsound hfirst hafter hthen hunlisted
        by_cases hlisted : ∃ key, network.Registered key id
        · obtain ⟨key, hregistered⟩ := hlisted
          obtain ⟨parting, hmem, hparting⟩ := mem_endings_of_unlisted hsound hregistered hunlisted
          exact .inr ⟨parting, List.mem_append_left _ hmem, hparting⟩
        · exact .inl ⟨before, hbefore, hsome, fun key hregistered => hlisted ⟨key, hregistered⟩⟩
      · exact .inr ⟨parting, List.mem_append_right _ hmem, hparting⟩

end Runs

/-! ## Accounts -/

private theorem flatMap_once {partings : List (Parting α)}
    (hnodup : (partings.map Parting.channel).Nodup)
    (id : ChannelId) (counts : Ending → Bool) (notice : Notice) :
    (partings.flatMap fun parting =>
        if parting.channel = id ∧ counts parting.ending = true then [notice] else []) =
      if ∃ parting ∈ partings, parting.channel = id ∧ counts parting.ending = true then [notice]
      else [] := by
  induction partings with
  | nil => simp
  | cons parting rest ih =>
      obtain ⟨hnot, hrest⟩ := List.nodup_cons.mp hnodup
      rw [List.flatMap_cons, ih hrest]
      by_cases hfirst : parting.channel = id ∧ counts parting.ending = true
      · have hnone : ¬ ∃ other ∈ rest, other.channel = id ∧ counts other.ending = true := by
          rintro ⟨other, hmem, hother, -⟩
          exact hnot (List.mem_map.mpr ⟨other, hmem, hother.trans hfirst.1.symm⟩)
        rw [if_pos hfirst, if_neg hnone, if_pos ⟨parting, List.mem_cons_self .., hfirst⟩]
        rfl
      · rw [if_neg hfirst, List.nil_append]
        refine if_congr ?_ rfl rfl
        simp [hfirst]

/-- A channel has a stream that no other channel has. -/
def OwnsStream (network : Network α) (id : ChannelId) (place : SessionKey) (stream : StreamId) :
    Prop :=
  (∃ channel, network.channel? id = some channel ∧ channel.session = place ∧
    channel.stream = some stream) ∧
    ∀ other found, network.channel? other = some found → found.session = place →
      found.stream = some stream → other = id

/-- The partings of a run account for what was noticed in it. -/
structure Accounts (final : Network α) (partings : List (Parting α)) : Prop where
  /-- No channel parts twice. -/
  once : (partings.map Parting.channel).Nodup
  /-- The resets and releases are those of the partings, in their order. -/
  noticed : final.trace.toList.filter Notice.isParting = partings.flatMap Parting.notices
  /-- The channels that have a stream and are listed no more are those that parted. -/
  parted : ∀ id, (∃ parting ∈ partings, parting.channel = id) ↔
    (∃ channel, final.channel? id = some channel ∧ channel.stream.isSome = true) ∧
      ∀ key, ¬ final.Registered key id
  /-- The stream of a channel is reset once if its exchange was aborted, and never otherwise. -/
  reset : ∀ id place stream, final.OwnsStream id place stream →
    final.trace.toList.filter (Notice.resets place stream) =
      if ∃ parting ∈ partings, parting.channel = id ∧ parting.ending.isAbort = true then
        [.streamReset place stream .cancel]
      else []
  /-- A destination hears of a release once for each of its channels that were released. -/
  released : ∀ key,
    final.trace.toList.count (.released key) = partings.countP (Parting.releases key)

section Parting

variable {parting : Parting α} {channel : Channel} {stream : StreamId}

theorem reset_eq (hchannel : parting.network.channel? parting.channel = some channel)
    (hstream : channel.stream = some stream) :
    parting.reset = [.streamReset channel.session stream .cancel] := by
  simp [Parting.reset, hchannel, hstream]

theorem release_cases (parting : Parting α) :
    parting.release = [] ∨ ∃ key, parting.release = [.released key] := by
  unfold Parting.release
  split
  · split
    · exact .inr ⟨_, rfl⟩
    · exact .inl rfl
  · exact .inl rfl

private theorem filter_resets_notices
    (hchannel : parting.network.channel? parting.channel = some channel)
    (hstream : channel.stream = some stream) (place : SessionKey) (found : StreamId) :
    parting.notices.filter (Notice.resets place found) =
      if (channel.session = place ∧ stream = found) ∧ parting.ending.isAbort = true then
        [.streamReset channel.session stream .cancel]
      else [] := by
  have hrelease : parting.release.filter (Notice.resets place found) = [] := by
    rcases release_cases parting with hnone | ⟨key, hone⟩
    · rw [hnone]; rfl
    · rw [hone]; rfl
  have hreset : parting.reset.filter (Notice.resets place found) =
      if channel.session = place ∧ stream = found then
        [.streamReset channel.session stream .cancel]
      else [] := by
    rw [reset_eq hchannel hstream]
    simp [Notice.resets, List.filter_cons]
  unfold Parting.notices
  cases parting.ending with
  | reported => simp [hrelease, Ending.isAbort]
  | cancelled => simp [hrelease, hreset, Ending.isAbort]
  | cutOff => simp [hreset, Ending.isAbort]
  | forgotten => simp [Ending.isAbort]

private theorem count_notices (hchannel : parting.network.channel? parting.channel = some channel)
    (hstream : channel.stream = some stream) (key : ConnectionKey) :
    parting.notices.count (.released key) = if parting.releases key = true then 1 else 0 := by
  have hreset : parting.reset.count (.released key) = 0 := by
    rw [reset_eq hchannel hstream]
    simp
  have hrelease : parting.release.count (.released key) =
      if parting.release.contains (.released key) = true then 1 else 0 := by
    rcases release_cases parting with hnone | ⟨other, hone⟩
    · simp [hnone]
    · by_cases heq : other = key
      · simp [hone, heq]
      · simp [hone, heq, Ne.symm heq]
  unfold Parting.notices Parting.releases
  cases parting.ending with
  | reported => simpa [Ending.isRelease] using hrelease
  | cancelled => simpa [Ending.isRelease, hreset] using hrelease
  | cutOff => simp [Ending.isRelease, hreset]
  | forgotten => simp [Ending.isRelease]

end Parting

section Account

variable {operations : List Operation} (hunheld : network.Unheld) (hsound : Sound network)
  (hmakes : ∀ operation ∈ operations, operation.makesChannel = false)
include hunheld hsound hmakes

private theorem resets_run {place : SessionKey} {stream : StreamId}
    (howns : (network.run operations).OwnsStream id place stream) :
    ((network.partings operations).flatMap Parting.notices).filter (Notice.resets place stream) =
      if ∃ parting ∈ network.partings operations,
        parting.channel = id ∧ parting.ending.isAbort = true then
        [.streamReset place stream .cancel]
      else [] := by
  obtain ⟨⟨channel, hchannel, hplace, hstream⟩, hown⟩ := howns
  rw [← flatMap_once (nodup_partings hsound operations) id Ending.isAbort, List.filter_flatMap]
  refine List.flatMap_congr fun parting hmem => ?_
  obtain ⟨parted, key, found, after, hparted, -, hfound, hafter, hsession, hkept, -⟩ :=
    channel_of_partings hunheld hsound hmakes hmem
  rw [filter_resets_notices hparted hfound place stream]
  -- A stream belongs to one channel, so only its parting can reset it.
  by_cases hid : parting.channel = id
  · -- The channel had its session and stream when it parted already.
    obtain rfl := Option.some.inj (hchannel.symm.trans (hid ▸ hafter))
    obtain rfl := Option.some.inj (hkept.symm.trans hstream)
    rw [← hplace, hsession]
    simp [hid]
  · have hother : ¬ (parted.session = place ∧ found = stream) := by
      rintro ⟨hsame, rfl⟩
      exact hid (hown _ after hafter (hsession.trans hsame) hkept)
    rw [if_neg fun hand => hother hand.1, if_neg fun hand => hid hand.1]

private theorem releases_run (key : ConnectionKey) :
    ((network.partings operations).flatMap Parting.notices).count (.released key) =
      (network.partings operations).countP (Parting.releases key) := by
  have hcount : ∀ parting ∈ network.partings operations,
      parting.notices.count (.released key) = if parting.releases key = true then 1 else 0 := by
    intro parting hmem
    obtain ⟨parted, -, stream, -, hparted, -, hstream, -⟩ :=
      channel_of_partings hunheld hsound hmakes hmem
    exact count_notices hparted hstream key
  generalize network.partings operations = partings at hcount
  induction partings with
  | nil => rfl
  | cons parting rest ih =>
      obtain ⟨hfirst, hrest⟩ := List.forall_mem_cons.mp hcount
      rw [List.flatMap_cons, List.count_append, hfirst, ih hrest, List.countP_cons]
      exact Nat.add_comm ..

end Account

/-- In every run in which channels are made by sends only, the channels that part account for
the resets and releases. -/
theorem run_accounts (surroundings : α) (operations : List Operation)
    (hmakes : ∀ operation ∈ operations, operation.makesChannel = false) :
    Accounts ((blank surroundings).run operations) ((blank surroundings).partings operations) := by
  have hsound : Sound (blank surroundings) := sound_blank surroundings
  have hunheld : (blank surroundings).Unheld := fun id channel hchannel => by simp at hchannel
  have hnoticed : ((blank surroundings).run operations).trace.toList.filter Notice.isParting =
      ((blank surroundings).partings operations).flatMap Parting.notices := by
    rw [notices_run hunheld hsound hmakes]
    rfl
  exact
    { once := nodup_partings hsound operations
      noticed := hnoticed
      parted := by
        intro id
        constructor
        · rintro ⟨parting, hmem, rfl⟩
          obtain ⟨-, -, stream, after, -, -, -, hafter, -, hstream, hnot⟩ :=
            channel_of_partings hunheld hsound hmakes hmem
          exact ⟨⟨after, hafter, by rw [hstream]; rfl⟩, hnot⟩
        · rintro ⟨⟨channel, hchannel, hstream⟩, hnot⟩
          rcases exists_parting hunheld hsound hmakes hchannel hstream hnot with
            ⟨before, hbefore, -⟩ | hparted
          · simp at hbefore
          · exact hparted
      reset := by
        intro id place stream howns
        have hfilter : ∀ notices : List Notice, notices.filter (Notice.resets place stream) =
            (notices.filter Notice.isParting).filter (Notice.resets place stream) := by
          intro notices
          rw [List.filter_filter]
          refine List.filter_congr fun notice _ => ?_
          cases notice <;> simp [Notice.resets, Notice.isParting]
        rw [hfilter, hnoticed, resets_run hunheld hsound hmakes howns]
      released := by
        intro key
        rw [← releases_run hunheld hsound hmakes key, ← hnoticed, List.count_filter rfl] }

/-- The owner of an exchange that travels aborts it, and then the connection is closed. -/
theorem run_accounts_aborted :
    let operations := firstSteps ++
      [.send ⟨1⟩ ⟨1⟩, .abort ⟨1⟩ (.cancelled "enough"), .hears (.channel ⟨1⟩) (.reset .cancel),
        .close ⟨1⟩ .requested]
    let final := (blank ()).run operations
    Accounts final ((blank ()).partings operations) ∧
      final.trace.toList.filter Notice.isParting =
        [.streamReset ⟨1⟩ ⟨1⟩ .cancel, .released ⟨1⟩] := by
  intro operations final
  have haccounts : Accounts final ((blank ()).partings operations) :=
    run_accounts () operations (by decide)
  exact ⟨haccounts, haccounts.noticed⟩

end Multiplex.Network
