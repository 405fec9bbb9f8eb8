import Multiplex.CommandLine.Run
import Multiplex.Proofs.Stress.Load

/-!
# What a stress run reports

A stress run dispatches its exchanges one after the other.  While the pool is open it is laden
with what it took so far, and once it was closed it refuses everything; `Open` and `Closed` say
so about the progress of a run, together with the numbers that it counts.  An exchange that is
dispatched leads from one to the other, and `progress_range` follows all of them.  What remains
is to wait and to count: after a close all that was taken is aborted, and otherwise the answers
that are due complete it.

In the end this is a formula for what the command line prints.
-/

namespace Multiplex

namespace Network

variable {α : Type}

private theorem laden_of_new (surroundings : α) (name : String) (connections streams delay : Nat)
    (responder : Responder) :
    ((blank surroundings).undergo
      (.makePool name connections streams (.loopback streams delay responder))).Laden ⟨1⟩ []
        connections streams delay responder where
  steady := (steady_blank surroundings).deal steadfast (.outside (.makePool name connections
    streams (.loopback streams delay responder)) rfl) rfl
  pool := ⟨_, rfl, rfl, rfl, rfl, rfl⟩
  ledger :=
    { releases := rfl
      nodup := List.nodup_nil
      count := rfl
      done := by simp
      there := by simp }
  carriesOnly id channel target hchannel := by
    have hnone : ((blank surroundings).undergo (.makePool name connections streams
      (.loopback streams delay responder))).channel? id = none := channel?_blank surroundings id
    simp [hnone] at hchannel
  unspent session := .inl rfl
  waits := by simp
  expects := by simp

end Network

namespace Stress

open Network

variable {settings : Settings} {progress : Progress} {taken refused number : Nat}

/-! ## Dispatching -/

/-- How many exchanges the connections of the pool may carry together. -/
def room (settings : Settings) : Nat := settings.pool.maxConnections * settings.pool.maxStreams

/-- The pool is open, has taken so many exchanges, and has refused so many. -/
structure Open (settings : Settings) (progress : Progress) (taken refused : Nat) : Prop where
  laden : progress.network.Laden pool progress.dispatched.toList settings.pool.maxConnections
    settings.pool.maxStreams settings.stress.responseDelay.milliseconds echo
  taken : progress.dispatched.size = taken
  refused : progress.rejected = refused
  whole : progress.isBroken = false

/-- The pool was closed when it had taken so many exchanges, and so many were refused. -/
structure Closed (settings : Settings) (progress : Progress) (taken refused : Nat) : Prop where
  shut : progress.network.Shut pool progress.dispatched.toList settings.pool.maxConnections
  taken : progress.dispatched.size = taken
  refused : progress.rejected = refused
  whole : progress.isBroken = false

private theorem sendable_request (number : Nat) : Sendable { request := request number } where
  outcome := rfl
  binding := rfl
  normalizes := rfl

private theorem open_start (settings : Settings) : Open settings (start settings) 0 0 where
  laden := laden_of_new () "stress" settings.pool.maxConnections settings.pool.maxStreams
    settings.stress.responseDelay.milliseconds echo
  taken := rfl
  refused := rfl
  whole := rfl

section Attempts

variable {network after : Network Unit} {dispatched : Array ExchangeId} {rejected : Nat}
  {isBroken : Bool} {closeAfter : Option Nat}

theorem dispatch_of_error {error : PoolError}
    (hsent : (network.undergo (.makeExchange (request number))).sendPooled quiet pool
      network.nextExchange = (after, some (.error error))) :
    dispatch closeAfter ⟨network, dispatched, rejected, isBroken⟩ number =
      ⟨after, dispatched, rejected + 1, isBroken⟩ := by
  change (network.addExchange { request := request number }).1.sendPooled quiet pool
    (network.addExchange { request := request number }).2 = _ at hsent
  simp only [dispatch, hsent]

private theorem dispatch_of_ok {key : ConnectionKey}
    (hsent : (network.undergo (.makeExchange (request number))).sendPooled quiet pool
      network.nextExchange = (after, some (.ok key))) :
    dispatch closeAfter ⟨network, dispatched, rejected, isBroken⟩ number =
      ⟨if closeAfter = some (dispatched.size + 1) then
          (after.letGoConnection key).closePool quiet pool
        else after.letGoConnection key, dispatched.push network.nextExchange, rejected,
        isBroken⟩ := by
  change (network.addExchange { request := request number }).1.sendPooled quiet pool
    (network.addExchange { request := request number }).2 = _ at hsent
  simp only [dispatch, hsent, Array.size_push]
  rfl

end Attempts

section Steps

variable (hbound : settings.pool.maxConnections + 1 < Word.bound64)
include hbound

/-- A pool that was closed refuses the next exchange. -/
theorem Closed.dispatch (hclosed : Closed settings progress taken refused)
    (closeAfter : Option Nat) (number : Nat) :
    Closed settings (dispatch closeAfter progress number) taken (refused + 1) := by
  obtain ⟨network, dispatched, rejected, isBroken⟩ := progress
  obtain ⟨hshut, rfl, rfl, hwhole⟩ := hclosed
  have hmade := hshut.deal steadfast (.outside (.makeExchange (request number)) rfl) rfl
  rw [dispatch_of_error (hmade.refuses hbound quiet network.nextExchange)]
  exact ⟨hmade, rfl, rfl, hwhole⟩

variable (hpositive : 1 ≤ settings.pool.maxStreams)
include hpositive

/-- A pool that carries as much as it may refuses the next exchange. -/
theorem Open.refuses (hopen : Open settings progress taken refused)
    (hfull : taken = room settings) (closeAfter : Option Nat) (number : Nat) :
    Open settings (dispatch closeAfter progress number) taken (refused + 1) := by
  obtain ⟨network, dispatched, rejected, isBroken⟩ := progress
  obtain ⟨hladen, rfl, rfl, hwhole⟩ := hopen
  have hmade := hladen.idle hpositive steadfast (.makeExchange (request number)) rfl rfl
  have hlisted : (network.undergo (.makeExchange (request number))).exchange?
      network.nextExchange = some { request := request number } := by
    simp [undergo, exchange?_addExchange]
  have hsent := hmade.refuses hpositive hbound hfull network.nextExchange
    (by rw [hlisted, Option.isSome_some]) steadfast
  rw [answering_steadfast] at hsent
  rw [dispatch_of_error hsent]
  exact ⟨hmade, rfl, rfl, hwhole⟩

/-- A pool that may carry more takes the next exchange, and is closed if it is time. -/
theorem Open.takes (hopen : Open settings progress taken refused)
    (hroom : taken < room settings) (closeAfter : Option Nat) (number : Nat) :
    (closeAfter = some (taken + 1) →
      Closed settings (dispatch closeAfter progress number) (taken + 1) refused) ∧
    (closeAfter ≠ some (taken + 1) →
      Open settings (dispatch closeAfter progress number) (taken + 1) refused) := by
  obtain ⟨network, dispatched, rejected, isBroken⟩ := progress
  obtain ⟨hladen, rfl, rfl, hwhole⟩ := hopen
  have hmade := hladen.idle hpositive steadfast (.makeExchange (request number)) rfl rfl
  have hexchange : (network.undergo (.makeExchange (request number))).exchange?
      network.nextExchange = some { request := request number } := by
    simp [undergo, exchange?_addExchange]
  obtain ⟨key, sent, hsent, htaken⟩ := hmade.takes hpositive hbound hroom hexchange
    (holds_iff.mpr ⟨_, hexchange, rfl⟩) (sendable_request number) steadfast
  rw [answering_steadfast] at hsent
  rw [dispatch_of_ok hsent]
  have hnow : (sent.letGoConnection key).Laden pool
      (dispatched.push network.nextExchange).toList settings.pool.maxConnections
      settings.pool.maxStreams settings.stress.responseDelay.milliseconds echo := by
    rwa [Array.toList_push]
  refine ⟨fun htime => ?_, fun hlater => ?_⟩
  · rw [if_pos htime]
    exact ⟨hnow.close steadfast, Array.size_push .., rfl, hwhole⟩
  · rw [if_neg hlater]
    exact ⟨hnow, Array.size_push .., rfl, hwhole⟩

/-! ## All exchanges -/

theorem progress_range (closeAfter : Option Nat) (count : Nat) :
    let progress := (List.range count).foldl (Stress.dispatch closeAfter) (start settings)
    let most := min count (room settings)
    (∀ time, closeAfter = some time → 1 ≤ time → time ≤ most →
      Closed settings progress time (count - time)) ∧
    ((∀ time, closeAfter = some time → 1 ≤ time → most < time) →
      Open settings progress most (count - most)) := by
  induction count with
  | zero =>
      refine ⟨fun time _ hleast hmost => ?_, fun _ => ?_⟩
      · omega
      · rw [Nat.zero_min]
        exact open_start settings
  | succ count ih =>
      simp only [List.range_succ, List.foldl_append, List.foldl_cons, List.foldl_nil] at ih ⊢
      obtain ⟨hclosed, hopen⟩ := ih
      have hmost : min count (room settings) ≤ count := Nat.min_le_left ..
      refine ⟨fun time htime hleast hreached => ?_, fun hlater => ?_⟩
      · by_cases hbefore : time ≤ min count (room settings)
        · -- The pool was closed before.
          have hnext := (hclosed time htime hleast hbefore).dispatch hbound closeAfter count
          have hrefused : count - time + 1 = count + 1 - time := by omega
          rwa [hrefused] at hnext
        · -- The pool is closed now.
          have hnow := (hopen fun other hother _ => by
            obtain rfl := Option.some.inj (htime.symm.trans hother)
            omega).takes hbound hpositive (by omega) closeAfter count
          have hlast : min count (room settings) + 1 = time := by omega
          have hrefused : count - min count (room settings) = count + 1 - time := by omega
          rw [hlast, hrefused] at hnow
          exact hnow.1 htime
      · have hearlier := hopen fun time htime hleast => by
          have hnever := hlater time htime hleast
          omega
        by_cases hroom : min count (room settings) < room settings
        · have htaken : min count (room settings) + 1 = min (count + 1) (room settings) := by omega
          have hrefused : count - min count (room settings) =
              count + 1 - min (count + 1) (room settings) := by omega
          have hnext := (hearlier.takes hbound hpositive hroom closeAfter count).2 fun htime => by
            have hnever := hlater _ htime (by omega)
            omega
          rwa [htaken, hrefused] at hnext
        · have htaken : min count (room settings) = min (count + 1) (room settings) := by omega
          have hrefused : count - min count (room settings) + 1 =
              count + 1 - min count (room settings) := by omega
          have hnext := hearlier.refuses hbound hpositive (by omega) closeAfter count
          rwa [hrefused, htaken] at hnext

end Steps

/-! ## Counting -/

private theorem foldl_count_of_ok {outcomes : List (Option Outcome)}
    (hall : ∀ outcome ∈ outcomes, ∃ response, outcome = some (.ok response)) (summary : Summary) :
    outcomes.foldl Summary.count summary =
      { summary with completed := summary.completed + outcomes.length } := by
  induction outcomes generalizing summary with
  | nil => rfl
  | cons outcome rest ih =>
      obtain ⟨⟨response, rfl⟩, hrest⟩ := List.forall_mem_cons.mp hall
      rw [List.foldl_cons, ih hrest, List.length_cons]
      simp only [Summary.count, Summary.mk.injEq, and_true]
      omega

private theorem foldl_count_of_aborted {outcomes : List (Option Outcome)}
    (hall : ∀ outcome ∈ outcomes, outcome = some (.error (.aborted .requested)))
    (summary : Summary) : outcomes.foldl Summary.count summary =
      { summary with aborted := summary.aborted + outcomes.length } := by
  induction outcomes generalizing summary with
  | nil => rfl
  | cons outcome rest ih =>
      obtain ⟨rfl, hrest⟩ := List.forall_mem_cons.mp hall
      rw [List.foldl_cons, ih hrest, List.length_cons]
      simp only [Summary.count, Summary.mk.injEq, true_and, and_true]
      omega

/-- A run counts the outcomes of what was dispatched, when the answers came in time. -/
theorem run_eq (hroom : settings.stress.exchanges * handleSize < Word.bound63)
    (hwhole : (dispatchAll settings).isBroken = false)
    (hanswered : isAnswered settings.stress = true) :
    run settings =
      let progress := dispatchAll settings
      let final := progress.network.deal steadfast
        (.advance settings.stress.responseDelay.milliseconds)
      .ok ((progress.dispatched.toList.map final.outcome?).foldl Summary.count
        { rejected := progress.rejected, releases := final.releases pool }) := by
  have hreleases : ∀ network : Network Unit,
      ((network.pool? pool).map Pool.releases).getD 0 = network.releases pool := by
    intro network
    rw [releases]
    cases network.pool? pool <;> rfl
  rw [run, if_neg (Nat.not_le.mpr hroom)]
  simp only [hwhole, if_false, Bool.false_eq_true, summarize, await, hanswered, if_true, hreleases]
  rw [← Array.foldl_toList, Array.toList_map]
  rfl

private theorem run_of_crowded (hcrowded : Word.bound63 ≤ settings.stress.exchanges * handleSize) :
    run settings = .error .noRoom := if_pos hcrowded

section Runs

variable (hbound : settings.pool.maxConnections + 1 < Word.bound64)
  (hpositive : 1 ≤ settings.pool.maxStreams)
  (hroom : settings.stress.exchanges * handleSize < Word.bound63)
  (hanswered : isAnswered settings.stress = true)
include hbound hpositive hroom hanswered

private theorem run_of_closing {time : Nat} (htime : settings.stress.closeAfter = some time)
    (hleast : 1 ≤ time) (hmost : time ≤ min settings.stress.exchanges (room settings)) :
    run settings = .ok { aborted := time, rejected := settings.stress.exchanges - time } := by
  obtain ⟨hshut, hsize, hrejected, hwhole⟩ :=
    (progress_range hbound hpositive settings.stress.closeAfter
      settings.stress.exchanges).1 time htime hleast hmost
  have hfinal := hshut.deal steadfast (.advance settings.stress.responseDelay.milliseconds) rfl
  rw [run_eq hroom hwhole hanswered]
  dsimp only [dispatchAll]
  rw [foldl_count_of_aborted (fun outcome hmem => by
    obtain ⟨target, htarget, rfl⟩ := List.mem_map.mp hmem
    exact hfinal.aborted target htarget), List.length_map, Array.length_toList, hsize, hrejected,
    hfinal.releases, Nat.zero_add]

private theorem run_of_completing
    (hlater : ∀ time, settings.stress.closeAfter = some time → 1 ≤ time →
      min settings.stress.exchanges (room settings) < time)
    (hfew : min settings.stress.exchanges settings.pool.maxStreams < 2 ^ 31) :
    run settings = .ok
      { completed := min settings.stress.exchanges (room settings)
        rejected := settings.stress.exchanges - min settings.stress.exchanges (room settings)
        releases := min settings.stress.exchanges (room settings) } := by
  obtain ⟨hladen, hsize, hrejected, hwhole⟩ :=
    (progress_range hbound hpositive settings.stress.closeAfter settings.stress.exchanges).2 hlater
  obtain ⟨hanswers, hreleases⟩ := hladen.advance hpositive (by
    rw [Array.length_toList, hsize]
    omega) steadfast
  rw [run_eq hroom hwhole hanswered]
  dsimp only [dispatchAll]
  rw [foldl_count_of_ok (fun outcome hmem => by
    obtain ⟨target, htarget, rfl⟩ := List.mem_map.mp hmem
    exact hanswers target htarget), hreleases, List.length_map, Array.length_toList, hsize,
    hrejected, Nat.zero_add]

end Runs

end Stress

namespace CommandLine

/-! ## What a command line can rely on -/

section Reports

variable {host : FileHost} {tree : FileTree} {defaultPath : String} {words : List String}
  {arguments : Arguments} {loaded settings : Settings}

theorem run_eq_reportRun (hwords : parse words = .ok (.run arguments))
    (hloaded : arguments.load host tree defaultPath = .ok loaded)
    (hsettings : settings = arguments.override loaded) (hvalid : settings.validate = .ok ()) :
    run host tree defaultPath words = reportRun (Stress.run settings) := by
  have hstarted : arguments.settings host tree defaultPath = .ok settings := by
    rw [Arguments.settings, hloaded]
    simp only [Except.bind, ← hsettings, hvalid]
  simp only [run, hwords, hstarted]

/-- A command line whose settings make sense, and whose answers come before the timeout, ends
with exit code 0, and what it reports does not depend on how exchanges and connections met.  Of
all exchanges the pool takes as many as its connections may carry together, and refuses the rest.
If it is closed before, when it took a given number of them, these are aborted and all others
refused, and no channel is ever released.  Otherwise all that it took are completed, and each
releases its channel.

Two conditions come from the machine.  There must be fewer than `2 ^ 60` exchanges, for else
there is no room for their handles.  And where exchanges are completed, no session may open
`2 ^ 31` streams, for then the numbers of its streams come again. -/
theorem run_reports (hwords : parse words = .ok (.run arguments))
    (hloaded : arguments.load host tree defaultPath = .ok loaded)
    (hsettings : settings = arguments.override loaded) (hvalid : settings.validate = .ok ())
    (hbound : settings.pool.maxConnections + 1 < Word.bound64)
    (hdelay : settings.stress.responseDelay.nanoseconds <
      settings.stress.responseTimeout.nanoseconds)
    (hmany : settings.stress.exchanges < 2 ^ 60) :
    let exchanges := settings.stress.exchanges
    let taken := min exchanges (settings.pool.maxConnections * settings.pool.maxStreams)
    let reports (summary : Stress.Summary) : Prop :=
      run host tree defaultPath words =
          { exitCode := 0, lines := summary.lines, isRun := true } ∧
        summary.total = exchanges
    (∀ time, settings.stress.closeAfter = some time → 1 ≤ time → time ≤ taken →
      reports { aborted := time, rejected := exchanges - time }) ∧
    ((∀ time, settings.stress.closeAfter = some time → time = 0 ∨ taken < time) →
      min exchanges settings.pool.maxStreams < 2 ^ 31 →
      reports { completed := taken, rejected := exchanges - taken, releases := taken }) := by
  intro exchanges taken reports
  obtain ⟨-, hpositive⟩ := settings.validate_eq_ok_iff.mp hvalid
  have hanswered : Stress.isAnswered settings.stress = true := by
    simp [Stress.isAnswered, hdelay]
  have hroom : settings.stress.exchanges * Stress.handleSize < Word.bound63 := by
    unfold Stress.handleSize Word.bound63
    omega
  have hrun := run_eq_reportRun hwords hloaded hsettings hvalid
  have htaken : taken ≤ exchanges := Nat.min_le_left ..
  refine ⟨fun time htime hleast hmost => ⟨?_, ?_⟩, fun hlater hfew => ⟨?_, ?_⟩⟩
  · rw [hrun, Stress.run_of_closing hbound hpositive hroom hanswered htime hleast hmost]
    rfl
  · simp only [Stress.Summary.total]
    omega
  · rw [hrun, Stress.run_of_completing hbound hpositive hroom hanswered
      (fun time htime hleast => (hlater time htime).resolve_left (Nat.ne_of_gt hleast)) hfew]
    rfl
  · simp only [Stress.Summary.total]
    omega

/-- Of 250 exchanges two connections with 100 streams each take 200; when the pool is closed
after 150, these are aborted. -/
theorem run_reports_two_connections :
    run .usual .empty "config.toml" ["-e", "250", "--connections", "2"] =
        { exitCode := 0
          lines := ["Exchanges:  250", "  completed 200", "  aborted   0", "  timed out 0",
            "  failed    0", "  rejected  50", "Releases:   200"]
          isRun := true } ∧
      run .usual .empty "config.toml"
          ["-e", "250", "--connections", "2", "--close-after", "150"] =
        { exitCode := 0
          lines := ["Exchanges:  250", "  completed 0", "  aborted   150", "  timed out 0",
            "  failed    0", "  rejected  100", "Releases:   0"]
          isRun := true } := by
  have hopen := (@run_reports .usual .empty "config.toml"
    ["-e", "250", "--connections", "2"] _ _ _ rfl rfl rfl rfl
    (by decide) (by decide) (by decide)).2 (fun time (htime : none = some time) => nomatch htime)
    (by decide)
  have hclosing := (@run_reports .usual .empty "config.toml"
    ["-e", "250", "--connections", "2", "--close-after", "150"] _ _ _ rfl rfl rfl rfl
    (by decide) (by decide) (by decide)).1 150 rfl (by decide) (by decide)
  exact ⟨hopen.1, hclosing.1⟩

private theorem run_breaks_off (hwords : parse words = .ok (.run arguments))
    (hloaded : arguments.load host tree defaultPath = .ok loaded)
    (hsettings : settings = arguments.override loaded) (hvalid : settings.validate = .ok ())
    (hcrowded : 2 ^ 60 ≤ settings.stress.exchanges) :
    run host tree defaultPath words = { exitCode := 101 } := by
  have hroom : Word.bound63 ≤ settings.stress.exchanges * Stress.handleSize := by
    unfold Stress.handleSize Word.bound63
    omega
  rw [run_eq_reportRun hwords hloaded hsettings hvalid, Stress.run_of_crowded hroom]
  rfl

theorem too_many_exchanges_break_off :
    run .usual .empty "config.toml" ["-e", "1152921504606846976"] = { exitCode := 101 } :=
  @run_breaks_off .usual .empty "config.toml" ["-e", "1152921504606846976"] _ _ _ rfl rfl rfl rfl
    (by decide)

end Reports

end CommandLine

end Multiplex
