import HushWire.RebindBroadcast

namespace HushWire

open Noise

/-!
# Recovering a stale peer

The instant of the last rebind is shared by all peers, and a tick serves the
first peer that is due.  A stale peer is therefore recovered unless the socket
was rebound for another peer within the last timeout or the tick recovers
another peer itself.  This may go on for ever (`stale_peer_starved`); a recovery
of another peer that leaves the socket alone delays nothing but its own tick.
-/

variable {snow : Snow}

namespace EngineScheduler

/-- A peer whose baselines are old enough is due. -/
theorem recoveryDue_of_le
    {now lastSeen : Instant}
    {lastAttempt : Option Instant}
    {timeout : Nat}
    (silent : timeout ≤ now - lastSeen)
    (attempted :
      ∀ attempt, lastAttempt = some attempt → timeout ≤ now - attempt) :
    recoveryDue now lastSeen lastAttempt timeout = true := by
  cases lastAttempt with
  | none =>
      simpa [recoveryDue] using silent
  | some attempt =>
      rcases Nat.le_total attempt lastSeen with isEarlier | isLater
      · simpa [recoveryDue, Nat.max_eq_right isEarlier] using silent
      · simpa [recoveryDue, Nat.max_eq_left isLater] using attempted attempt rfl

/-- Where a peer is due some peer is the first that is. -/
theorem firstRecovery_isSome
    {scheduler : EngineScheduler}
    {engine : Engine snow}
    {now : Instant}
    {peer : ScheduledPeer}
    {policy : RecoveryPolicy}
    {lastSeen : Instant}
    (due : RecoveryDue scheduler engine now peer policy lastSeen) :
    (scheduler.firstRecovery engine now).isSome := by
  have isDue :
      scheduler.recoveryOf engine now peer = some (policy, lastSeen) := by
    have later := recoveryDue_of_le due.silent due.attempted
    unfold recoveryOf
    rw [due.hasPolicy]
    dsimp only
    rw [due.active, due.seen]
    have isSent : (scheduler.lastSent.lookup peer.name).isNone = false := by
      simpa using due.sent
    simp [isSent, later]
  obtain ⟨position, member⟩ :
      ∃ position, (peer, position) ∈ scheduler.peers.zipIdx := by
    obtain ⟨position, bound, rfl⟩ := List.getElem_of_mem due.member
    exact ⟨position, List.mk_mem_zipIdx_iff_getElem?.mpr
      (List.getElem?_eq_getElem bound)⟩
  unfold firstRecovery
  rw [List.findSome?_isSome_iff]
  exact ⟨(peer, position), member, by simp [isDue]⟩

end EngineScheduler

namespace Ticked

variable {ticked : Ticked snow}

/-- The tick tried to rebind the socket in recovering a peer. -/
def RebindsFor (ticked : Ticked snow) (peerName : PeerName) : Prop :=
  ∃ silence rebindSucceeded hadStaleState,
    .recovery peerName silence true rebindSucceeded hadStaleState ∈
      ticked.result.events

theorem RebindsFor.recovers
    {peerName : PeerName}
    (rebinds : ticked.RebindsFor peerName) :
    ticked.Recovers peerName := by
  obtain ⟨_, _, _, isEvent⟩ := rebinds
  exact ⟨_, isEvent, rfl⟩

/-- A tick that finds a peer due recovers that peer or another. -/
theorem recovers_of_due
    (ticked : Ticked snow)
    {peer : ScheduledPeer}
    {policy : RecoveryPolicy}
    {lastSeen : Instant}
    (due :
      RecoveryDue ticked.before.scheduler ticked.before.engine ticked.now peer
        policy lastSeen) :
    ∃ peerName, ticked.Recovers peerName := by
  have stillDue :
      RecoveryDue ticked.retried.scheduler ticked.retried.engine ticked.now
        peer policy lastSeen := by
    have samePeers := ticked.retries.peers
    exact
      { member := by
          rw [ticked.retries.scheduler]
          exact due.member
        hasPolicy := due.hasPolicy
        sent := by
          rw [ticked.retries.scheduler]
          exact due.sent
        active := (ticked.retries.hasActiveSession peer.name).trans due.active
        seen := by
          unfold Engine.lastSeen
          rw [samePeers]
          exact due.seen
        silent := due.silent
        attempted := by
          rw [ticked.retries.scheduler]
          exact due.attempted }
  obtain ⟨⟨⟨found, position⟩, foundPolicy, seen⟩, first⟩ :=
    Option.isSome_iff_exists.mp (EngineScheduler.firstRecovery_isSome stillDue)
  refine ⟨found.name, ?_⟩
  unfold Recovers
  rw [ticked.events_eq]
  unfold EngineScheduler.recover
  have isFirst :
      ticked.retried.scheduler.firstRecovery ticked.retried.engine
          ticked.input.now =
        some ((found, position), foundPolicy, seen) :=
    first
  rw [isFirst]
  exact ⟨_, List.mem_append_right _ (List.mem_singleton_self _), rfl⟩

end Ticked

/-- The instant of the last rebind is that of a tick that tried one. -/
theorem lastUdpRebindAttempt_of_execution
    {config : Config}
    {localStatic : Key}
    {router : Router}
    {events : List (SchedulingEvent snow)}
    {final : Scheduling snow}
    (execution :
      Execution SchedulingStep (.start config localStatic router) events
        final)
    {attempt : Instant}
    (isAttempt : final.scheduler.lastUdpRebindAttempt = some attempt) :
    ∃ ticked ∈ ticksOf events,
      ticked.now = attempt ∧ ∃ peerName, ticked.RebindsFor peerName := by
  induction execution with
  | nil =>
      cases isAttempt
  | @snoc events middle event final earlier taken inductionHypothesis =>
      rw [ticksOf_append]
      cases taken with
      | call before call =>
          obtain ⟨ticked, member, isTick⟩ := inductionHypothesis isAttempt
          exact ⟨ticked, List.mem_append_left _ member, isTick⟩
      | tick ticked =>
          have encoded :=
            (SchedulingInvariant.of_execution earlier).pendingEncoded
          rcases ticked.recovery_cases encoded with
            ⟨_, sameUdp, _⟩ | ⟨peer, policy, _, _, _, _, isEvents, isUdp, _⟩
          · rw [sameUdp] at isAttempt
            obtain ⟨earlierTick, member, isTick⟩ :=
              inductionHypothesis isAttempt
            exact ⟨earlierTick, List.mem_append_left _ member, isTick⟩
          · rw [isUdp, EngineScheduler.noteRecovery_rebind] at isAttempt
            split at isAttempt
            next rebinds =>
              cases isAttempt
              refine ⟨ticked, List.mem_append_right _
                (List.mem_singleton_self _), rfl, peer.name, ?_⟩
              unfold Ticked.RebindsFor
              rw [isEvents, rebinds]
              exact ⟨_, _, _, List.mem_singleton_self _⟩
            · obtain ⟨earlierTick, member, isTick⟩ :=
                inductionHypothesis isAttempt
              exact ⟨earlierTick, List.mem_append_left _ member, isTick⟩

/--
A peer that has been stale for another timeout was recovered meanwhile, or the
socket was rebound for another peer within the last timeout, or this tick
recovers another peer.
-/
theorem stale_peer_recovered
    {config : Config}
    {localStatic : Key}
    {router : Router}
    {events : List (SchedulingEvent snow)}
    {ticked : Ticked snow}
    (execution :
      Execution SchedulingStep (.start config localStatic router) events
        ticked.before)
    {peerConfig : PeerConfig}
    (configured : peerConfig ∈ config.peer)
    (udp : config.interface.transport = .udp)
    (rebinds : 0 < peerConfig.udpRebindAfter)
    (active :
      ticked.before.engine.hasActiveSession peerConfig.name ticked.now = true)
    (sent :
      (ticked.before.scheduler.lastSent.lookup peerConfig.name).isSome)
    {lastSeen : Instant}
    (seen : ticked.before.engine.lastSeen peerConfig.name = some lastSeen)
    (stale :
      lastSeen + 2 * fromSecs peerConfig.udpRebindAfter.toNat ≤ ticked.now) :
    (∃ earlier ∈ ticksOf events ++ [ticked],
        lastSeen + fromSecs peerConfig.udpRebindAfter.toNat < earlier.now ∧
          earlier.Recovers peerConfig.name) ∨
      (∃ earlier ∈ ticksOf events,
        ticked.now <
            earlier.now + fromSecs peerConfig.udpRebindAfter.toNat ∧
          ∃ other, other ≠ peerConfig.name ∧ earlier.RebindsFor other) ∨
      ∃ other, other ≠ peerConfig.name ∧ ticked.Recovers other := by
  have positive : 0 < fromSecs peerConfig.udpRebindAfter.toNat :=
    Nat.mul_pos (UInt16.lt_iff_toNat_lt.mp rebinds) (by decide)
  -- A tick within the last timeout comes after the peer has become stale.
  have isLate
      {earlier : Ticked snow}
      (recent :
        ticked.now <
          earlier.now + fromSecs peerConfig.udpRebindAfter.toNat) :
      lastSeen + fromSecs peerConfig.udpRebindAfter.toNat < earlier.now := by
    have since := stale.trans_lt recent
    rw [Nat.two_mul, ← Nat.add_assoc] at since
    exact Nat.lt_of_add_lt_add_right since
  by_cases recentAttempt :
      ∃ attempt,
        ticked.before.scheduler.lastUdpRebindAttempt = some attempt ∧
          ticked.now < attempt + fromSecs peerConfig.udpRebindAfter.toNat
  · obtain ⟨attempt, isAttempt, recent⟩ := recentAttempt
    obtain ⟨earlier, member, rfl, recoveredName, rebindsFor⟩ :=
      lastUdpRebindAttempt_of_execution execution isAttempt
    by_cases isPeer : recoveredName = peerConfig.name
    · subst isPeer
      exact
        .inl ⟨earlier, List.mem_append_left _ member, isLate recent,
          rebindsFor.recovers⟩
    · exact
        .inr (.inl ⟨earlier, member, recent, recoveredName, isPeer,
          rebindsFor⟩)
  · push Not at recentAttempt
    have policy :
        (ScheduledPeer.ofConfig config.interface.transport
            peerConfig).recovery =
          some
            { timeout := fromSecs peerConfig.udpRebindAfter.toNat
              rebindUdp := true } := by
      simp [ScheduledPeer.ofConfig, recoveryPolicy, udp, rebinds]
    obtain ⟨recoveredName, recovers⟩ :=
      ticked.recovers_of_due
        { member := by
            rw [(SchedulingInvariant.of_execution execution).peers]
            exact List.mem_map_of_mem configured
          hasPolicy := policy
          sent := sent
          active := active
          seen := seen
          silent := by
            refine Nat.le_sub_of_add_le' (le_trans ?_ stale)
            exact Nat.add_le_add_left
              (Nat.le_mul_of_pos_left _ Nat.two_pos) lastSeen
          attempted := by
            intro attempt isAttempt
            exact Nat.le_sub_of_add_le' (recentAttempt attempt isAttempt) }
    by_cases isPeer : recoveredName = peerConfig.name
    · subst isPeer
      exact
        .inl ⟨ticked, List.mem_append_right _ (List.mem_singleton_self _),
          isLate (Nat.lt_add_of_pos_right positive), recovers⟩
    · exact .inr (.inr ⟨recoveredName, isPeer, recovers⟩)

/-- A call in a situation, which leaves the scheduler as it is. -/
theorem SchedulingStep.call_engine
    (state : Scheduling snow)
    (call : EngineCall snow) :
    SchedulingStep state (.call state.engine call)
      ⟨state.scheduler, (state.engine.perform call).2⟩ := by
  obtain ⟨scheduler, engine⟩ := state
  exact .call engine call

namespace StarvationExample

open TwoPeersExample

/-- Both peers are silent after two seconds. -/
def config : Config :=
  TwoPeersExample.config (peerConfig "second" "a" 1 2)
    (peerConfig "third" "bb" 1 2)

/-- The initiation with which a tick recovers the first peer. -/
def recoveryInitiation (ticked : Ticked PlainNoise.snow) : Bytes :=
  ((ticked.result.outputs.filter fun scheduled =>
      scheduled.operation = .sessionRecovery).flatMap fun scheduled =>
    scheduled.output.initiations "second").headD []

def atOne : Ticked PlainNoise.snow where
  before := ⟨.new config, established⟩
  input := input 1 false

/-- Both peers are silent, and the first one is recovered. -/
def atTwo : Ticked PlainNoise.snow where
  before := atOne.after
  input := input 2 false

/-- The first peer answers at once and falls silent again. -/
def answer : EngineCall PlainNoise.snow :=
  respond (.fill 2) (recoveryInitiation atTwo) 30 (fromSecs 2)

def atThree : Ticked PlainNoise.snow where
  before :=
    ⟨atTwo.after.scheduler, (atTwo.after.engine.perform answer).2⟩
  input := input 3 false

/-- Both peers are silent, and again the first one is recovered. -/
def atFour : Ticked PlainNoise.snow where
  before := atThree.after
  input := input 4 false

def atFive : Ticked PlainNoise.snow where
  before := atFour.after
  input := input 5 false

theorem config_accepted : config.validate decodeBase64 = .ok () := by
  decide +kernel

theorem answers :
    SchedulingStep atTwo.after (.call atTwo.after.engine answer)
      atThree.before := by
  have step := SchedulingStep.call_engine atTwo.after answer
  simpa only [atThree] using step

theorem run :
    Execution SchedulingStep (.start config (.fill 1) router)
      [.call hub (initiate "second" 7), .call afterInitiation toSecond,
        .call afterSecond (initiate "third" 9), .call afterBoth toThird,
        .tick atOne, .tick atTwo, .call atTwo.after.engine answer,
        .tick atThree, .tick atFour]
      atFive.before :=
  .snoc (.snoc (.snoc (.snoc (.snoc (established_run config) (.tick atOne))
    (.tick atTwo)) answers) (.tick atThree))
    (.tick atFour)

/-- The second peer has a session, is kept alive and is not heard of. -/
theorem stale :
    ∀ ticked ∈ [atTwo, atThree, atFour, atFive],
      ticked.before.engine.hasActiveSession "third" ticked.now = true ∧
        (ticked.before.scheduler.lastSent.lookup "third").isSome ∧
        ticked.before.engine.lastSeen "third" = some 0 := by
  decide +kernel

/-- Only the first peer is recovered. -/
theorem recovered :
    ([atOne, atTwo, atThree, atFour, atFive].flatMap fun ticked =>
        ticked.result.events.map SchedulerEvent.peerName) =
      ["second", "second"] := by
  decide +kernel

/-- No tick recovers the second peer. -/
theorem not_recovers :
    ∀ ticked ∈ [atOne, atTwo, atThree, atFour, atFive],
      ¬ ticked.Recovers "third" := by
  rintro ticked member ⟨event, isEvent, isThird⟩
  have isRecovered :
      "third" ∈
        [atOne, atTwo, atThree, atFour, atFive].flatMap fun ticked =>
          ticked.result.events.map SchedulerEvent.peerName :=
    List.mem_flatMap.mpr
      ⟨ticked, member, List.mem_map.mpr ⟨event, isEvent, isThird⟩⟩
  rw [recovered] at isRecovered
  revert isRecovered
  decide

end StarvationExample

open StarvationExample in
/-- The socket was rebound for the other peer a second ago. -/
theorem stale_peer_recovered_example :
    ∃ earlier ∈ [atOne, atTwo, atThree, atFour],
      atFive.now < earlier.now + fromSecs 2 ∧
        ∃ other, other ≠ "third" ∧ earlier.RebindsFor other := by
  obtain ⟨active, sent, seen⟩ := stale atFive (by simp)
  have isPeer :
      TwoPeersExample.peerConfig "third" "bb" 1 2 ∈ config.peer := by
    simp [config, TwoPeersExample.config]
  have either :=
    stale_peer_recovered run isPeer rfl (by decide) active sent seen
      (by decide)
  rcases either with ⟨earlier, member, _, recovers⟩ | rebound | other
  · exact absurd recovers (not_recovers earlier member)
  · exact rebound
  · obtain ⟨_, _, event, isEvent, _⟩ := other
    have noneNow : atFive.result.events = [] := by
      decide +kernel
    rw [noneNow] at isEvent
    cases isEvent

open StarvationExample in
/-- Ticks a second apart leave a peer stale and never recover it. -/
theorem stale_peer_starved :
    config.validate TwoPeersExample.decodeBase64 = .ok () ∧
      (∃ events,
        Execution SchedulingStep
            (.start config (.fill 1) TwoPeersExample.router) events
            atFive.before ∧
          ticksOf events = [atOne, atTwo, atThree, atFour]) ∧
      [atOne, atTwo, atThree, atFour, atFive].map Ticked.now =
        [fromSecs 1, fromSecs 2, fromSecs 3, fromSecs 4, fromSecs 5] ∧
      (∀ ticked ∈ [atTwo, atThree, atFour, atFive],
        ticked.before.engine.hasActiveSession "third" ticked.now = true ∧
          (ticked.before.scheduler.lastSent.lookup "third").isSome ∧
          ticked.before.engine.lastSeen "third" = some 0) ∧
      0 + 2 * fromSecs 2 + fromSecs 1 ≤ atFive.now ∧
      ∀ ticked ∈ [atOne, atTwo, atThree, atFour, atFive],
        ¬ ticked.Recovers "third" :=
  ⟨config_accepted, ⟨_, run, rfl⟩, rfl, stale, by decide, not_recovers⟩

end HushWire
