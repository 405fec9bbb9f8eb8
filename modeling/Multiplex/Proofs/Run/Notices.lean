import Multiplex.Proofs.Run.Step

/-!
# What is noticed in a run

Every notice has a reason in the operation that left it: a removal and the close of a
session come from the close of a connection, a release from a connection that is open, and
a stream from a session that is open, while what is opened or attached is noticed of upkeep
only.  `Warrants` says so.

A step appends notices to the trace and takes none away, so the notices of a run are those
of its operations in their order.
-/

namespace Multiplex.Network

variable {α : Type} {first second network : Network α} {id : ChannelId} {happening : Happening}

/-- A happening is a reason for a notice. -/
def Warrants (network : Network α) (happening : Happening) : Notice → Prop
  | .removed key => ∃ reason, happening = .closed key reason
  | .released key => network.isOpen key = true
  | .streamOpened place _ _ => ∀ session, network.session? place = some session →
    session.transport.isClosed = false
  | .sessionClosed place _ _ _ => ∃ key reason connection, happening = .closed key reason ∧
    network.connection? key = some connection ∧ connection.session = place
  | .attached _ | .opening .. | .heard .. => happening = .nothing
  | .streamReset .. => True

/-! ## Notices of one step -/

theorem mem_resetNotices {channel : Channel} {code : Option ErrorCode} {notice : Notice}
    (hmem : notice ∈ network.resetNotices channel code) :
    ∃ stream found, code = some found ∧ channel.stream = some stream ∧
      notice = .streamReset channel.session stream found := by
  unfold resetNotices at hmem
  split at hmem
  next found stream hstream =>
    split at hmem
    · exact ⟨stream, found, rfl, hstream, List.mem_singleton.mp hmem⟩
    · simp at hmem
  next => simp at hmem

/-- Releases are all that a destination notices of a parting, and its connection lists the
channel. -/
theorem mem_partingNotices {code : Option ErrorCode} {notice : Notice}
    (hmem : notice ∈ network.partingNotices id code) :
    (∃ session stream found, notice = .streamReset session stream found) ∨
      ∃ key, notice = .released key ∧ network.Registered key id := by
  unfold partingNotices at hmem
  split at hmem
  · simp at hmem
  next channel hchannel =>
    split at hmem
    · simp at hmem
    · rcases List.mem_append.mp hmem with hreset | hrelease
      · obtain ⟨stream, found, -, -, rfl⟩ := mem_resetNotices hreset
        exact .inl ⟨_, _, _, rfl⟩
      · split at hrelease
        · simp at hrelease
        next key howner =>
          split at hrelease
          next hlists =>
            obtain ⟨connection, hconnection, hlive⟩ := (Option.any_eq_true ..).mp hlists
            refine .inr ⟨key, ?_, connection, hconnection, by simpa using hlive⟩
            unfold releaseNotices at hrelease
            split at hrelease
            · exact List.mem_singleton.mp hrelease
            · simp at hrelease
          next => simp at hrelease

/-- The resets are all that is noticed when a close cuts off a channel. -/
theorem mem_cutNotices {notice : Notice} (hmem : notice ∈ network.cutNotices id) :
    ∃ session stream, notice = .streamReset session stream .cancel := by
  unfold cutNotices at hmem
  split at hmem
  next channel hchannel =>
    split at hmem
    · obtain ⟨stream, found, hcode, -, rfl⟩ := mem_resetNotices hmem
      exact ⟨_, _, by rw [← Option.some.inj hcode]⟩
    · simp at hmem
  next => simp at hmem

theorem Brings.trace (hsound : Sound first) (hstep : Brings first happening second) :
    ∃ notices, second.trace.toList = first.trace.toList ++ notices ∧
      ∀ notice ∈ notices, first.Warrants happening notice := by
  have hparting : ∀ {id code happening}, ∀ notice ∈ first.partingNotices id code,
      first.Warrants happening notice := by
    intro id code happening notice hmem
    rcases mem_partingNotices hmem with ⟨session, stream, found, rfl⟩ | ⟨key, rfl, hregistered⟩
    · trivial
    · obtain ⟨connection, hconnection, hlive⟩ := hregistered
      exact isOpen_iff.mpr ⟨connection, hconnection, hsound.open_of_live hconnection hlive⟩
  cases hstep with
  | unheard | absorbed | decided | withdrawn | unsent => exact ⟨[], by simp, by simp⟩
  | reported _ _ _ _ htrace => exact ⟨_, htrace, hparting⟩
  | cancelled _ _ _ _ _ _ htrace => exact ⟨_, htrace, hparting⟩
  | @closed key reason connection _ hconnection _ hcloses =>
      obtain ⟨fresh, htrace⟩ := hcloses.trace
      refine ⟨_, htrace, fun notice hmem => ?_⟩
      rcases List.mem_append.mp hmem with hremoved | hrest
      · split at hremoved
        · simp at hremoved
        · obtain rfl := List.mem_singleton.mp hremoved
          exact ⟨reason, rfl⟩
      · rcases List.mem_cons.mp hrest with rfl | hcut
        · exact ⟨key, reason, connection, rfl, hconnection, rfl⟩
        · obtain ⟨id, -, hnotice⟩ := List.mem_flatMap.mp hcut
          obtain ⟨session, stream, rfl⟩ := mem_cutNotices hnotice
          trivial
  | undispatched _ hundispatched => exact ⟨[], by simp [hundispatched.trace], by simp⟩
  | dispatched _ _ _ _ hdispatched =>
      refine ⟨_, hdispatched.trace, fun notice hmem => ?_⟩
      obtain rfl := List.mem_singleton.mp hmem
      exact hdispatched.accepting
  | givenUp _ _ _ _ _ htrace => exact ⟨[], by simp [htrace], by simp⟩
  | sentOn _ _ _ _ _ _ haccepting _ htrace =>
      obtain ⟨resets, htrace, honly⟩ := htrace
      refine ⟨_, htrace, fun notice hmem => ?_⟩
      rcases List.mem_cons.mp hmem with rfl | hreset
      · exact haccepting
      · obtain rfl := honly notice hreset
        trivial

theorem trace_undergo (hsound : Sound network) (operation : Operation) :
    ∃ notices, (network.undergo operation).trace.toList = network.trace.toList ++ notices ∧
      ∀ notice ∈ notices, network.Warrants (network.happening operation) notice := by
  by_cases hnothing : network.happening operation = .nothing
  · obtain ⟨notices, htrace, hidle⟩ := (Calm.undergo hnothing).trace
    refine ⟨notices, htrace, fun notice hmem => ?_⟩
    have hupkeep := hidle notice hmem
    cases notice with
    | attached | opening | heard => exact hnothing
    | streamReset => trivial
    | streamOpened | sessionClosed | released | removed => simp [Notice.isUpkeep] at hupkeep
  · exact (brings_undergo hsound hnothing).trace hsound

/-! ## Notices of a run -/

/-- A run is noticed by what its operations are noticed by. -/
theorem trace_run (hsound : Sound network) (operations : List Operation) :
    ∃ notices, (network.run operations).trace.toList = network.trace.toList ++ notices ∧
      ∀ notice ∈ notices, ∃ past operation future,
        operations = past ++ operation :: future ∧
        (network.run past).Warrants ((network.run past).happening operation) notice := by
  induction operations generalizing network with
  | nil => exact ⟨[], by simp, by simp⟩
  | cons operation rest ih =>
      obtain ⟨earlier, hearlier, hwarranted⟩ := trace_undergo hsound operation
      obtain ⟨later, hlater, hreasons⟩ := ih (hsound.undergo operation)
      refine ⟨earlier ++ later, ?_, fun notice hmem => ?_⟩
      · rw [run_cons, hlater, hearlier, List.append_assoc]
      · rcases List.mem_append.mp hmem with hmem | hmem
        · exact ⟨[], operation, rest, rfl, hwarranted notice hmem⟩
        · obtain ⟨past, other, future, rfl, hreason⟩ := hreasons notice hmem
          exact ⟨operation :: past, other, future, rfl, hreason⟩

end Multiplex.Network
