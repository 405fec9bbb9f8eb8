import Multiplex.Proofs.Run.Notices

/-!
# How a connection ends

The first close of a connection tears it down, and it is closed for good.  The destination
learns that the connection goes away, then the session is closed, then the streams of the
exchanges under way are reset, and nothing else is noticed of it ever after: no second
removal, no release, no stream.

The reasons for notices carry the argument.  After the close the connection is closed and
so is its session, so no later operation has a reason to notice anything of it.
-/

namespace Multiplex.Network

variable {α : Type} {first second network : Network α} {key : ConnectionKey} {id : ChannelId}
  {target : ExchangeId} {connection : Connection} {reason : CloseReason}

/-! ## Closed for good -/

/-- A connection that was closed. -/
def IsClosed (network : Network α) (key : ConnectionKey) : Prop :=
  ∃ connection, network.connection? key = some connection ∧ connection.isClosed = true

/-- A session that was closed. -/
def SessionIsClosed (network : Network α) (place : SessionKey) : Prop :=
  ∃ session, network.session? place = some session ∧ session.transport.isClosed = true

theorem IsClosed.later (hclosed : first.IsClosed key) (hlater : Later first second) :
    second.IsClosed key := by
  obtain ⟨before, hbefore, hover⟩ := hclosed
  obtain ⟨after, hafter, hages⟩ := hlater.connection hbefore
  exact ⟨after, hafter, hages.closed hover⟩

theorem SessionIsClosed.later {place : SessionKey} (hclosed : first.SessionIsClosed place)
    (hlater : Later first second) : second.SessionIsClosed place := by
  obtain ⟨before, hbefore, hover⟩ := hclosed
  obtain ⟨after, hafter, hstays⟩ := hlater.session hbefore
  exact ⟨after, hafter, hstays hover⟩

theorem IsClosed.not_open (hclosed : network.IsClosed key) : network.isOpen key = false := by
  obtain ⟨connection, hconnection, hover⟩ := hclosed
  simp [isOpen, hconnection, hover]

theorem closes_of_happening (hsound : Sound network) {operation : Operation}
    (hhappening : network.happening operation = .closed key reason) :
    ∃ connection, network.connection? key = some connection ∧ connection.isClosed = false ∧
      Closes network (network.undergo operation) key connection reason := by
  have hsome : network.happening operation ≠ .nothing := by
    rw [hhappening]
    exact Happening.noConfusion
  have hstep := brings_undergo hsound hsome
  rw [hhappening] at hstep
  cases hstep with
  | closed hconnection hopen hcloses => exact ⟨_, hconnection, hopen, hcloses⟩

private theorem close_of_happening (hsound : Sound network) {operation : Operation}
    (hhappening : network.happening operation = .closed key reason) :
    network.close quiet key reason = (network.undergo operation, true) := by
  obtain ⟨connection, hconnection, hopen, -⟩ := closes_of_happening hsound hhappening
  obtain ⟨second, heq, -⟩ :=
    closes_of_open hsound.coherent hsound.housed hconnection hopen reason
  have hsome : network.happening operation ≠ .nothing := by
    rw [hhappening]
    exact Happening.noConfusion
  have hsecond : network.undergo operation = second := by
    rw [undergo_eq_bring hsome, hhappening, bring, heq]
  rw [heq, hsecond]

theorem Closes.isClosed (hcloses : Closes first second key connection reason) :
    second.IsClosed key :=
  ⟨_, (hcloses.connection? key).trans (if_pos rfl), rfl⟩

theorem Closes.sessionIsClosed (hcloses : Closes first second key connection reason)
    (hsound : Sound second) : second.SessionIsClosed connection.session := by
  obtain ⟨found, hfound, hover⟩ := hcloses.isClosed
  obtain rfl := Option.some.inj (((hcloses.connection? key).trans (if_pos rfl)).symm.trans hfound)
  obtain ⟨session, hsession, hclosed⟩ := hsound.housed.session hfound
  exact ⟨session, hsession, hclosed hover⟩

theorem IsClosed.not_happening (hclosed : network.IsClosed key) (hsound : Sound network)
    {operation : Operation} : network.happening operation ≠ .closed key reason := by
  intro hhappening
  obtain ⟨connection, hconnection, hopen, -⟩ := closes_of_happening hsound hhappening
  have hthere : network.isOpen key = true := isOpen_iff.mpr ⟨connection, hconnection, hopen⟩
  rw [hclosed.not_open] at hthere
  exact Bool.false_ne_true hthere

theorem mem_happenings {operations : List Operation} {happening : Happening} :
    happening ∈ network.happenings operations ↔ ∃ past operation future,
      operations = past ++ operation :: future ∧
        happening = (network.run past).happening operation := by
  induction operations generalizing network with
  | nil => simp [happenings]
  | cons operation rest ih =>
      rw [happenings, List.mem_cons, ih]
      constructor
      · rintro (hfirst | ⟨past, other, future, rfl, hlater⟩)
        · exact ⟨[], operation, rest, rfl, hfirst⟩
        · exact ⟨operation :: past, other, future, rfl, hlater⟩
      · rintro ⟨past, other, future, hsplit, hhappening⟩
        cases past with
        | nil =>
            obtain ⟨rfl, rfl⟩ := List.cons.inj hsplit
            exact .inl hhappening
        | cons early past =>
            obtain ⟨rfl, rfl⟩ := List.cons.inj hsplit
            exact .inr ⟨past, other, future, rfl, hhappening⟩

theorem isClosed_of_mem_happenings (hsound : Sound network) {operations : List Operation}
    (hmem : .closed key reason ∈ network.happenings operations) :
    (network.run operations).IsClosed key := by
  obtain ⟨past, operation, future, rfl, hhappening⟩ := mem_happenings.mp hmem
  have hthen : Sound (network.run past) := hsound.run past
  obtain ⟨connection, -, -, hcloses⟩ := closes_of_happening hthen hhappening.symm
  rw [run_append, run_cons]
  exact hcloses.isClosed.later (later_run (hthen.undergo operation) future)

private theorem IsClosed.not_mem_happenings (hclosed : network.IsClosed key)
    (hsound : Sound network)
    (operations : List Operation) : .closed key reason ∉ network.happenings operations := by
  intro hmem
  obtain ⟨past, operation, future, rfl, hhappening⟩ := mem_happenings.mp hmem
  exact (hclosed.later (later_run hsound past)).not_happening (hsound.run past) hhappening.symm

/-! ## Nothing is sent any more -/

private theorem send_of_isClosed (hclosed : network.IsClosed key) (target : ExchangeId) :
    ∃ error, (network.send quiet key target).2 = .error error := by
  obtain ⟨connection, hconnection, hover⟩ := hclosed
  unfold send
  rw [hconnection]
  cases network.exchange? target with
  | none => exact ⟨_, rfl⟩
  | some exchange =>
      simp only [hover, if_true]
      split
      · exact ⟨_, rfl⟩
      · split <;> exact ⟨_, rfl⟩

/-- No channel of a closed connection takes an exchange: the connection turns it down, or
its session does. -/
private theorem sendOnChannel_of_isClosed (hclosed : network.IsClosed key) {channel : Channel}
    (hchannel : network.channel? id = some channel) (howner : channel.owner = some key)
    (hkept : network.isConnectionAlive key = true ∨ network.SessionIsClosed channel.session)
    (target : ExchangeId) :
    ∃ error, (network.sendOnChannel quiet id target).2 = .error error := by
  cases hexchange : network.exchange? target with
  | none => exact ⟨.closed, by simp [sendOnChannel, hchannel, hexchange]⟩
  | some exchange =>
      simp only [sendOnChannel, hchannel, hexchange]
      split
      · exact ⟨_, rfl⟩
      · split
        · exact ⟨_, rfl⟩
        · split
          · exact ⟨_, rfl⟩
          next hthere =>
            obtain ⟨connection, hconnection, hover⟩ := hclosed
            have hopen : network.isConnectionAlive key = false := by
              have hsame : (network.bind id target).ownerIsClosed channel =
                  network.isConnectionAlive key := by
                simp [ownerIsClosed, howner, bind, hconnection, hover]
              simpa [hsame] using hthere
            obtain ⟨session, hsession, hrefuses⟩ :=
              hkept.resolve_left fun halive => by simp [hopen] at halive
            have hbound : (network.bind id target).session? channel.session = some session :=
              hsession
            obtain ⟨error, hrefused⟩ := openStream_of_isClosed _ hbound hrefuses exchange.request
              (.channel id)
            split
            next heq => simp [heq] at hrefused
            next => exact ⟨_, rfl⟩

/-! ## The whole protocol -/

/-- Nothing is noticed of a connection and of the streams of its session. -/
structure Silent (notices : List Notice) (key : ConnectionKey) (place : SessionKey) : Prop where
  removed : .removed key ∉ notices
  released : .released key ∉ notices
  streams : ∀ stream request, .streamOpened place stream request ∉ notices

/-- A connection of the first network is closed in the second, and the third comes later. -/
structure Farewell (first second third : Network α) (key : ConnectionKey)
    (connection : Connection) (reason : CloseReason) : Prop where
  /-- The close is performed, and it is the last that is. -/
  performed : first.close quiet key reason = (second, true)
  refused : ∀ other, third.close quiet key other = (third, false)
  /-- The destination hears of the removal once, the session is closed next, and the streams
  that are cut off are reset; of the connection nothing is noticed any more. -/
  trace : ∃ fresh later, third.trace.toList = first.trace.toList ++
      (.removed key :: .sessionClosed connection.session .noError reason.message fresh ::
        connection.live.flatMap first.cutNotices) ++ later ∧
    .removed key ∉ first.trace.toList ∧ Silent later key connection.session ∧
    (∀ notice ∈ connection.live.flatMap first.cutNotices,
      ∃ place stream, notice = .streamReset place stream .cancel) ∧
    -- The session is closed once, unless another connection uses it too.
    ((∀ other found, third.connection? other = some found →
        found.session = connection.session → other = key) →
      ∀ code text flag, .sessionClosed connection.session code text flag ∉
        first.trace.toList ++ later)
  /-- What was under way is aborted. -/
  aborted : ∀ target ∈ first.liveExchanges connection,
    third.outcome? target = some (.error (.aborted reason))
  /-- Nothing is sent on the connection any more, not by its channels either. -/
  unsent : ∀ target, ∃ error, (third.send quiet key target).2 = .error error
  unsentOn : ∀ id channel, third.channel? id = some channel → channel.owner = some key →
    third.isConnectionAlive key = true ∨ channel.session = connection.session →
    ∀ target, ∃ error, (third.sendOnChannel quiet id target).2 = .error error
  /-- The connection stays closed and empty. -/
  closed : ∃ found, third.connection? key = some found ∧ found.status = .closed ∧
    found.hasCapacity = false ∧ found.channelCount = 0

private theorem silent_run (hsound : Sound network) (hclosed : network.IsClosed key)
    {place : SessionKey} (hplace : network.SessionIsClosed place) (operations : List Operation) :
    ∃ later, (network.run operations).trace.toList = network.trace.toList ++ later ∧
      Silent later key place ∧ ∀ code text flag, .sessionClosed place code text flag ∈ later →
        ∃ other found, other ≠ key ∧ (network.run operations).connection? other = some found ∧
          found.session = place := by
  obtain ⟨later, htrace, hreasons⟩ := trace_run hsound operations
  -- Each notice would have a reason, and each reason needs what is closed to be open.
  refine ⟨later, htrace, ⟨fun hmem => ?_, fun hmem => ?_, fun stream request hmem => ?_⟩,
    fun code text flag hmem => ?_⟩
  · obtain ⟨past, operation, future, rfl, reason, hhappening⟩ := hreasons _ hmem
    have hthen : (network.run past).IsClosed key := hclosed.later (later_run hsound past)
    exact hthen.not_happening (hsound.run past) hhappening
  · obtain ⟨past, operation, future, rfl, hopen⟩ := hreasons _ hmem
    have hthen : (network.run past).IsClosed key := hclosed.later (later_run hsound past)
    have hnot : (network.run past).isOpen key = true := hopen
    rw [hthen.not_open] at hnot
    exact Bool.false_ne_true hnot
  · obtain ⟨past, operation, future, rfl, hopen⟩ := hreasons _ hmem
    obtain ⟨session, hsession, hover⟩ := hplace.later (later_run hsound past)
    have hnot : session.transport.isClosed = false := hopen session hsession
    rw [hover] at hnot
    exact Bool.false_ne_true hnot.symm
  · obtain ⟨past, operation, future, rfl, other, reason, found, hhappening, hfound, hsession⟩ :=
      hreasons _ hmem
    have hthen : Sound (network.run past) := hsound.run past
    have hlater : Later (network.run past) (network.run (past ++ operation :: future)) := by
      rw [run_append]
      exact later_run hthen (operation :: future)
    obtain ⟨after, hafter, hages⟩ := hlater.connection hfound
    refine ⟨other, after, ?_, hafter, hages.session.trans hsession⟩
    rintro rfl
    exact (hclosed.later (later_run hsound past)).not_happening hthen hhappening

private theorem isClosed_of_noticed (surroundings : α) (operations : List Operation) :
    let network := (blank surroundings).run operations
    (∀ key, .removed key ∈ network.trace.toList → network.IsClosed key) ∧
      ∀ place code text flag, .sessionClosed place code text flag ∈ network.trace.toList →
        ∃ other found, network.connection? other = some found ∧ found.session = place ∧
          network.IsClosed other := by
  intro network
  have hsound : Sound (blank surroundings) := sound_blank surroundings
  obtain ⟨notices, htrace, hreasons⟩ := trace_run hsound operations
  have hnotices : network.trace.toList = notices := htrace
  rw [hnotices]
  have hover : ∀ {past operation future key reason},
      operations = past ++ operation :: future →
      ((blank surroundings).run past).happening operation = .closed key reason →
      network.IsClosed key := by
    intro past operation future key reason hsplit hhappening
    exact isClosed_of_mem_happenings hsound
      (mem_happenings.mpr ⟨past, operation, future, hsplit, hhappening.symm⟩)
  refine ⟨fun key hmem => ?_, fun place code text flag hmem => ?_⟩
  · obtain ⟨past, operation, future, hsplit, reason, hhappening⟩ := hreasons _ hmem
    exact hover hsplit hhappening
  · obtain ⟨past, operation, future, hsplit, other, reason, found, hhappening, hfound, hsession⟩ :=
      hreasons _ hmem
    have hlater : Later ((blank surroundings).run past) network := by
      subst hsplit
      have hrest := later_run (hsound.run past) (operation :: future)
      rwa [← run_append] at hrest
    obtain ⟨after, hafter, hages⟩ := hlater.connection hfound
    exact ⟨other, after, hafter, hages.session.trans hsession, hover hsplit hhappening⟩

private theorem outcome_of_live (hsound : Sound first)
    (hconnection : first.connection? key = some connection)
    (hcloses : Closes first second key connection reason)
    (hmem : target ∈ first.liveExchanges connection) :
    second.outcome? target = some (.error (.aborted reason)) := by
  obtain ⟨id, hlive, hcarried⟩ := List.mem_filterMap.mp hmem
  obtain ⟨channel, hchannel, -, hslot, hheld⟩ := carried?_eq_some.mp hcarried
  obtain ⟨exchange, hexchange, hkept⟩ := holds_iff.mp hheld
  obtain ⟨hunresolved, -⟩ := hsound.coherent.waits_of_registered ⟨connection, hconnection, hlive⟩
    hchannel hslot hexchange hkept
  have hnone : exchange.outcome = none := by simpa [Exchange.isResolved] using hunresolved
  exact hcloses.outcome_after hexchange hnone hmem

private theorem noticed_of_close (surroundings : α) (before after : List Operation)
    {operation : Operation} :
    let network := (blank surroundings).run before
    let closed := network.undergo operation
    network.connection? key = some connection → connection.isClosed = false →
      connection.destination ≠ .gone → Closes network closed key connection reason →
      ∃ fresh later, (closed.run after).trace.toList = network.trace.toList ++
          (.removed key :: .sessionClosed connection.session .noError reason.message fresh ::
            connection.live.flatMap network.cutNotices) ++ later ∧
        .removed key ∉ network.trace.toList ∧ Silent later key connection.session ∧
        ((∀ other found, (closed.run after).connection? other = some found →
            found.session = connection.session → other = key) →
          ∀ code text flag, .sessionClosed connection.session code text flag ∉
            network.trace.toList ++ later) := by
  intro network closed hconnection hopen hdestination hcloses
  have hsound : Sound network := (sound_blank surroundings).run before
  have hthen : Sound closed := hsound.undergo operation
  have hlater : Later network (closed.run after) :=
    (later_undergo hsound operation).trans (later_run hthen after)
  have hplace : closed.SessionIsClosed connection.session := hcloses.sessionIsClosed hthen
  have hnot : ¬ network.IsClosed key := by
    rintro ⟨found, hfound, hclosed⟩
    obtain rfl := Option.some.inj (hconnection.symm.trans hfound)
    simp [hopen] at hclosed
  obtain ⟨fresh, htrace⟩ := hcloses.trace
  obtain ⟨later, hrest, hsilent, hsessions⟩ := silent_run hthen hcloses.isClosed hplace after
  obtain ⟨hremoved, hnoticed⟩ := isClosed_of_noticed surroundings before
  refine ⟨fresh, later, ?_, fun hmem => hnot (hremoved key hmem), hsilent,
    fun hunshared code text flag hmem => ?_⟩
  · rw [hrest, htrace, closeNotices, if_neg hdestination]
    rfl
  · -- Earlier or later, another connection would have closed the session.
    rcases List.mem_append.mp hmem with hmem | hmem
    · obtain ⟨other, found, hfound, hsession, hother⟩ := hnoticed _ _ _ _ hmem
      obtain ⟨aged, haged, hages⟩ := hlater.connection hfound
      have hkey := hunshared other aged haged (hages.session.trans hsession)
      exact hnot (hkey ▸ hother)
    · obtain ⟨other, found, hne, hfound, hsession⟩ := hsessions _ _ _ hmem
      exact hne (hunshared other found hfound hsession)

/-- The first close of a connection that has a destination is performed, and no close before
it and none after it; whatever happens later, the connection stays closed and silent. -/
theorem farewell_of_close (surroundings : α) (before after : List Operation)
    (operation : Operation) (key : ConnectionKey) (connection : Connection)
    (reason : CloseReason) :
    let network := (blank surroundings).run before
    let closed := network.undergo operation
    network.connection? key = some connection → connection.destination ≠ .gone →
      network.happening operation = .closed key reason →
        (∀ other, .closed key other ∉ (blank surroundings).happenings before) ∧
        (∀ other, .closed key other ∉ closed.happenings after) ∧
        Farewell network closed (closed.run after) key connection reason := by
  intro network closed hconnection hdestination hhappening
  have hblank : Sound (blank surroundings) := sound_blank surroundings
  have hsound : Sound network := hblank.run before
  have hthen : Sound closed := hsound.undergo operation
  obtain ⟨same, hsame, hopen, hcloses⟩ := closes_of_happening hsound hhappening
  obtain rfl := Option.some.inj (hconnection.symm.trans hsame)
  have hover : closed.IsClosed key := hcloses.isClosed
  have hlater : Later closed (closed.run after) := later_run hthen after
  have hfinal : (closed.run after).IsClosed key := hover.later hlater
  refine ⟨fun other hmem => ?_, fun other => hover.not_mem_happenings hthen after, ?_⟩
  · obtain ⟨found, hfound, hclosed⟩ := isClosed_of_mem_happenings hblank hmem
    obtain rfl := Option.some.inj (hconnection.symm.trans hfound)
    simp [hopen] at hclosed
  obtain ⟨fresh, later, htrace, hnot, hsilent, honce⟩ :=
    noticed_of_close surroundings before after hconnection hopen hdestination hcloses
  exact
    { performed := close_of_happening hsound hhappening
      refused := close_of_not_open hfinal.not_open
      trace := by
        refine ⟨fresh, later, htrace, hnot, hsilent, fun notice hmem => ?_, honce⟩
        obtain ⟨id, -, hcut⟩ := List.mem_flatMap.mp hmem
        exact mem_cutNotices hcut
      aborted := fun target hmem =>
        hlater.outcome_after (outcome_of_live hsound hconnection hcloses hmem)
      unsent := send_of_isClosed hfinal
      unsentOn := by
        intro id channel hchannel howner hkept
        refine sendOnChannel_of_isClosed hfinal hchannel howner (hkept.imp_right ?_)
        intro hsession
        rw [hsession]
        exact (hcloses.sessionIsClosed hthen).later hlater
      closed := by
        obtain ⟨found, hfound, hclosed⟩ := hfinal
        have hempty : found.live = [] := (hthen.run after).housed.closed hfound hclosed
        refine ⟨found, hfound, ?_, ?_, ?_⟩
        · simp [Connection.status, hclosed]
        · simp [Connection.hasCapacity, hclosed]
        · simp [Connection.channelCount, hempty] }

/-- A connection that carries an exchange says farewell when it is closed. -/
theorem farewell_of_requested :
    let network := (blank ()).run (firstSteps ++ [.send ⟨1⟩ ⟨1⟩])
    let closed := network.undergo (.close ⟨1⟩ .requested)
    ∃ connection, network.liveExchanges connection = [⟨1⟩] ∧
      Farewell network closed (closed.run [.send ⟨1⟩ ⟨1⟩]) ⟨1⟩ connection .requested := by
  refine ⟨⟨⟨1⟩, .observed, ⟨1⟩, 2, [⟨1⟩], false, 1⟩, rfl, ?_⟩
  exact (farewell_of_close () (firstSteps ++ [.send ⟨1⟩ ⟨1⟩]) [.send ⟨1⟩ ⟨1⟩]
    (.close ⟨1⟩ .requested) ⟨1⟩ _ .requested rfl (by decide) rfl).2.2

end Multiplex.Network
