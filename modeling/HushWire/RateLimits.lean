import HushWire.Agreement
import HushWire.SchedulerSteps

namespace HushWire

open Noise

/-!
# How often the scheduler acts

The attempts to rebind the socket share one instant, the other recoveries and
the keepalives have one for each peer.  `Ledger` says that these instants are
not older than what was done, in any run of ticks and engine calls.
-/

variable {snow : Snow}

/-- The tick of an event, if it is one. -/
def SchedulingEvent.ticked? : SchedulingEvent snow → Option (Ticked snow)
  | .tick ticked => some ticked
  | .call _ _ => none

/-- The ticks of a run, in order. -/
def ticksOf (events : List (SchedulingEvent snow)) : List (Ticked snow) :=
  events.filterMap SchedulingEvent.ticked?

/-- No tick is given an instant before that of an earlier one. -/
def Chronological (ticks : List (Ticked snow)) : Prop :=
  ticks.Pairwise fun earlier later => earlier.now ≤ later.now

namespace Ticked

/-- The tick tried to rebind the socket, whether it succeeded or not. -/
def AttemptsRebind (ticked : Ticked snow) : Prop :=
  ∃ peerName silence rebindSucceeded hadStaleState,
    .recovery peerName silence true rebindSucceeded hadStaleState ∈
      ticked.result.events

/-- The tick recovered a peer without the socket. -/
def RecoversSession (ticked : Ticked snow) (peerName : PeerName) : Prop :=
  ∃ silence rebindSucceeded hadStaleState,
    .recovery peerName silence false rebindSucceeded hadStaleState ∈
      ticked.result.events

/-- The peer and its policy that explain a recovery of a tick. -/
structure Explains
    (earlier : List (Ticked snow))
    (ticked : Ticked snow)
    (peerName : PeerName)
    (rebindUdp : Bool)
    (peer : ScheduledPeer)
    (policy : RecoveryPolicy) :
    Prop where
  member : peer ∈ ticked.before.scheduler.peers
  name : peer.name = peerName
  hasPolicy : peer.recovery = some policy
  rebindUdp : policy.rebindUdp = rebindUdp
  active :
    ticked.before.engine.hasActiveSession peerName ticked.now = true
  sent : (ticked.before.scheduler.lastSent.lookup peerName).isSome
  silent :
    ∃ lastSeen,
      ticked.before.engine.lastSeen peerName = some lastSeen ∧
        lastSeen + policy.timeout ≤ ticked.now
  rebind :
    policy.rebindUdp = true →
    ∀ previous ∈ earlier,
      previous.AttemptsRebind →
      previous.now + policy.timeout ≤ ticked.now
  session :
    policy.rebindUdp = false →
    ∀ previous ∈ earlier,
      previous.RecoversSession peerName →
      previous.now + policy.timeout ≤ ticked.now

/-- What a tick does is spaced from what the earlier ticks of a run did. -/
structure RateLimited
    (earlier : List (Ticked snow))
    (ticked : Ticked snow) :
    Prop where
  single : ticked.result.events.length ≤ 1
  recovery :
    ∀ peerName silence rebindUdp rebindSucceeded hadStaleState,
      .recovery peerName silence rebindUdp rebindSucceeded hadStaleState ∈
        ticked.result.events →
      ∃ peer policy, Explains earlier ticked peerName rebindUdp peer policy
  keepalive :
    ¬ ticked.Rebinds →
    ∀ peerName,
      (ticked.result.keepaliveFrames peerName).length ≤ 1 ∧
        (ticked.result.keepaliveFrames peerName ≠ [] →
          ∃ peer ∈ ticked.before.scheduler.peers,
            peer.name = peerName ∧
              ∀ previous ∈ earlier,
                previous.result.keepaliveFrames peerName ≠ [] →
                previous.now + peer.persistentKeepalive ≤ ticked.now)

end Ticked

/-- The instants a scheduler keeps are not older than what they stand for. -/
structure Ledger
    (ticks : List (Ticked snow))
    (scheduler : EngineScheduler) :
    Prop where
  rebind :
    ∀ previous ∈ ticks,
      previous.AttemptsRebind →
      ∃ attempt,
        scheduler.lastUdpRebindAttempt = some attempt ∧
          previous.now ≤ attempt
  session :
    ∀ previous ∈ ticks,
      ∀ peerName,
        previous.RecoversSession peerName →
        ∃ attempt,
          scheduler.lastSessionRecoveryAttempt.lookup peerName =
              some attempt ∧
            previous.now ≤ attempt
  keepalive :
    ∀ previous ∈ ticks,
      ∀ peerName,
        previous.result.keepaliveFrames peerName ≠ [] →
        ∃ sent,
          scheduler.lastSent.lookup peerName = some sent ∧
            previous.now ≤ sent

/-- An instant that is kept or becomes the latest one stays late enough. -/
theorem late_of_kept
    {kept after : Option Instant}
    {earlier now : Instant}
    (ordered : earlier ≤ now)
    (noted : after = kept ∨ after = some now)
    (late : ∃ instant, kept = some instant ∧ earlier ≤ instant) :
    ∃ instant, after = some instant ∧ earlier ≤ instant := by
  rcases noted with rfl | rfl
  · exact late
  · exact ⟨now, rfl, ordered⟩

/-- A positive time has passed since an instant that is so far back. -/
theorem elapsed_of_le_sub
    {instant now : Instant}
    {interval : Nat}
    (positive : 0 < interval)
    (longAgo : interval ≤ now - instant) :
    instant + interval ≤ now := by
  have notLater : instant ≤ now :=
    Nat.le_of_lt (Nat.lt_of_sub_pos (positive.trans_le longAgo))
  exact Nat.add_le_of_le_sub' notLater longAgo

namespace EngineScheduler

variable
  {scheduler : EngineScheduler}
  {peer : ScheduledPeer}
  {policy : RecoveryPolicy}
  {now : Instant}

/-- A rebind is noted for all peers. -/
theorem noteRecovery_rebind :
    (scheduler.noteRecovery peer policy now).lastUdpRebindAttempt =
      if policy.rebindUdp then
        some now
      else
        scheduler.lastUdpRebindAttempt := by
  unfold noteRecovery
  split <;> rfl

/-- Another recovery is noted for its peer. -/
theorem noteRecovery_session (peerName : PeerName) :
    (scheduler.noteRecovery peer policy
        now).lastSessionRecoveryAttempt.lookup peerName =
      if policy.rebindUdp = false ∧ peerName = peer.name then
        some now
      else
        scheduler.lastSessionRecoveryAttempt.lookup peerName := by
  unfold noteRecovery
  cases policy.rebindUdp with
  | true =>
      simp
  | false =>
      by_cases isPeer : peerName = peer.name
      · subst isPeer
        simp
      · simp [isPeer]

end EngineScheduler

namespace Ticked

variable {ticked : Ticked snow}

/-- What a tick does about a recovery is noted at its instant. -/
theorem attempts (encoded : ticked.before.engine.PendingEncoded) :
    (ticked.after.scheduler.lastUdpRebindAttempt =
            ticked.before.scheduler.lastUdpRebindAttempt ∨
          ticked.after.scheduler.lastUdpRebindAttempt = some ticked.now) ∧
      (ticked.AttemptsRebind →
        ticked.after.scheduler.lastUdpRebindAttempt = some ticked.now) ∧
      ∀ peerName,
        (ticked.after.scheduler.lastSessionRecoveryAttempt.lookup peerName =
              ticked.before.scheduler.lastSessionRecoveryAttempt.lookup
                peerName ∨
            ticked.after.scheduler.lastSessionRecoveryAttempt.lookup
                peerName =
              some ticked.now) ∧
          (ticked.RecoversSession peerName →
            ticked.after.scheduler.lastSessionRecoveryAttempt.lookup
                peerName =
              some ticked.now) := by
  rcases ticked.recovery_cases encoded with
    ⟨noEvents, sameUdp, sameSession⟩ |
    ⟨peer, policy, _, _, _, _, isEvents, isUdp, isSession⟩
  · refine ⟨Or.inl sameUdp, ?_, fun peerName => ⟨?_, ?_⟩⟩
    · rintro ⟨_, _, _, _, event⟩
      rw [noEvents] at event
      cases event
    · rw [sameSession]
      exact Or.inl rfl
    · rintro ⟨_, _, _, event⟩
      rw [noEvents] at event
      cases event
  · rw [isUdp, isSession, EngineScheduler.noteRecovery_rebind]
    refine ⟨?_, ?_, fun peerName => ⟨?_, ?_⟩⟩
    · split
      · exact Or.inr rfl
      · exact Or.inl rfl
    · rintro ⟨_, _, _, _, event⟩
      rw [isEvents, List.mem_singleton, SchedulerEvent.recovery.injEq]
        at event
      rw [if_pos event.2.2.1.symm]
    · rw [EngineScheduler.noteRecovery_session]
      split
      · exact Or.inr rfl
      · exact Or.inl rfl
    · rintro ⟨_, _, _, event⟩
      rw [isEvents, List.mem_singleton, SchedulerEvent.recovery.injEq]
        at event
      rw [EngineScheduler.noteRecovery_session,
        if_pos ⟨event.2.2.1.symm, event.1⟩]

end Ticked

namespace Ledger

variable
  {ticks : List (Ticked snow)}
  {ticked : Ticked snow}

/-- A tick notes what it does and forgets nothing of what was done. -/
theorem tick
    (ledger : Ledger ticks ticked.before.scheduler)
    (ordered : ∀ previous ∈ ticks, previous.now ≤ ticked.now)
    (encoded : ticked.before.engine.PendingEncoded) :
    Ledger (ticks ++ [ticked]) ticked.after.scheduler := by
  obtain ⟨notedUdp, isUdp, session⟩ := ticked.attempts encoded
  constructor
  · intro previous member attempts
    rcases List.mem_append.mp member with before | isLast
    · exact late_of_kept (ordered previous before) notedUdp
        (ledger.rebind previous before attempts)
    · cases List.mem_singleton.mp isLast
      exact ⟨ticked.now, isUdp attempts, le_refl _⟩
  · intro previous member peerName recovers
    obtain ⟨notedSession, isSession⟩ := session peerName
    rcases List.mem_append.mp member with before | isLast
    · exact late_of_kept (ordered previous before) notedSession
        (ledger.session previous before peerName recovers)
    · cases List.mem_singleton.mp isLast
      exact ⟨ticked.now, isSession recovers, le_refl _⟩
  · intro previous member peerName sent
    obtain ⟨noted, isNow, _⟩ := ticked.keepalives encoded peerName
    rcases List.mem_append.mp member with before | isLast
    · exact late_of_kept (ordered previous before) noted
        (ledger.keepalive previous before peerName sent)
    · cases List.mem_singleton.mp isLast
      exact ⟨ticked.now, isNow sent, le_refl _⟩

/-- The instants of a scheduler limit what its next tick does. -/
theorem rateLimited
    (ledger : Ledger ticks ticked.before.scheduler)
    (encoded : ticked.before.engine.PendingEncoded)
    (positive :
      ∀ peer ∈ ticked.before.scheduler.peers,
        ∀ policy, peer.recovery = some policy → 0 < policy.timeout) :
    ticked.RateLimited ticks where
  single := by
    rcases ticked.recovery_cases encoded with
      ⟨noEvents, _⟩ | ⟨_, _, _, _, _, _, isEvents, _⟩
    · simp [noEvents]
    · simp [isEvents]
  recovery peerName silence rebindUdp rebindSucceeded hadStaleState event := by
    rcases ticked.recovery_cases encoded with
      ⟨noEvents, _⟩ | ⟨peer, policy, lastSeen, _, _, due, isEvents, _⟩
    · rw [noEvents] at event
      cases event
    · rw [isEvents, List.mem_singleton, SchedulerEvent.recovery.injEq]
        at event
      obtain ⟨rfl, rfl, rfl, rfl, rfl⟩ := event
      have isPositive := positive peer due.member policy due.hasPolicy
      have elapsed {instant : Instant} :=
        @elapsed_of_le_sub instant ticked.now _ isPositive
      refine ⟨peer, policy, due.member, rfl, due.hasPolicy, rfl, due.active,
        due.sent, ⟨lastSeen, due.seen, elapsed due.silent⟩, ?_, ?_⟩
      · intro rebinds previous member attempts
        obtain ⟨attempt, isAttempt, notLater⟩ :=
          ledger.rebind previous member attempts
        have longAgo := due.attempted attempt (by rw [rebinds]; exact isAttempt)
        exact (Nat.add_le_add_right notLater _).trans (elapsed longAgo)
      · intro noRebind previous member recovers
        obtain ⟨attempt, isAttempt, notLater⟩ :=
          ledger.session previous member peer.name recovers
        have longAgo :=
          due.attempted attempt (by rw [noRebind]; exact isAttempt)
        exact (Nat.add_le_add_right notLater _).trans (elapsed longAgo)
  keepalive notRebinds peerName := by
    obtain ⟨_, _, spaced⟩ := ticked.keepalives encoded peerName
    obtain ⟨single, reason⟩ := spaced notRebinds
    refine ⟨single, ?_⟩
    intro sent
    obtain ⟨peer, member, isName, nonzero, elapsed⟩ := reason sent
    refine ⟨peer, member, isName, ?_⟩
    intro previous before sentBefore
    obtain ⟨instant, isSent, notLater⟩ :=
      ledger.keepalive previous before peerName sentBefore
    exact (Nat.add_le_add_right notLater _).trans
      (elapsed_of_le_sub (Nat.pos_of_ne_zero nonzero)
        (elapsed instant isSent))

end Ledger

/-- A policy never has the timeout zero. -/
theorem recoveryPolicy_timeout_pos
    {transport : TransportConfig}
    {udpRebindAfter : UInt16}
    {sessionTimeout : UInt64}
    {policy : RecoveryPolicy}
    (isPolicy :
      recoveryPolicy transport udpRebindAfter sessionTimeout = some policy) :
    0 < policy.timeout := by
  unfold recoveryPolicy at isPolicy
  split at isPolicy
  · rename_i rebinds
    cases isPolicy
    exact Nat.mul_pos (UInt16.lt_iff_toNat_lt.mp rebinds.2) (by decide)
  · split at isPolicy
    · rename_i positive
      cases isPolicy
      exact Nat.mul_pos (UInt64.lt_iff_toNat_lt.mp positive) (by decide)
    · cases isPolicy

/-- The timeouts of a scheduler are those of a configuration. -/
theorem EngineScheduler.timeout_pos
    {config : Config}
    {peer : ScheduledPeer}
    (member : peer ∈ (EngineScheduler.new config).peers)
    {policy : RecoveryPolicy}
    (hasPolicy : peer.recovery = some policy) :
    0 < policy.timeout := by
  obtain ⟨_, _, rfl⟩ := List.mem_map.mp member
  exact recoveryPolicy_timeout_pos hasPolicy

@[simp] theorem ticksOf_append
    (earlier later : List (SchedulingEvent snow)) :
    ticksOf (earlier ++ later) = ticksOf earlier ++ ticksOf later :=
  List.filterMap_append

/-- What holds in every run of a scheduler from its start. -/
structure SchedulingInvariant
    (config : Config)
    (events : List (SchedulingEvent snow))
    (state : Scheduling snow) :
    Prop where
  peers : state.scheduler.peers = (EngineScheduler.new config).peers
  pendingEncoded : state.engine.PendingEncoded
  ledger :
    Chronological (ticksOf events) →
    Ledger (ticksOf events) state.scheduler

theorem SchedulingInvariant.of_execution
    {config : Config}
    {localStatic : Key}
    {router : Router}
    {events : List (SchedulingEvent snow)}
    {final : Scheduling snow}
    (execution :
      Execution SchedulingStep (.start config localStatic router) events
        final) :
    SchedulingInvariant config events final := by
  induction execution with
  | nil =>
      exact
        { peers := rfl
          pendingEncoded := SessionState.PendingEncoded.new
          ledger := fun _ => ⟨by simp [ticksOf], by simp [ticksOf],
            by simp [ticksOf]⟩ }
  | snoc _ taken invariant =>
      cases taken with
      | call before call =>
          refine
            { peers := invariant.peers
              pendingEncoded := invariant.pendingEncoded.perform call
              ledger := ?_ }
          rw [ticksOf_append]
          exact (List.append_nil _).symm ▸ invariant.ledger
      | tick ticked =>
          refine
            { peers :=
                (ticked.peers_after invariant.pendingEncoded).trans
                  invariant.peers
              pendingEncoded :=
                ticked.pendingEncoded invariant.pendingEncoded
              ledger := ?_ }
          intro chronological
          rw [ticksOf_append] at chronological ⊢
          obtain ⟨before, _, ordered⟩ := List.pairwise_append.mp chronological
          exact (invariant.ledger before).tick
            (fun previous member =>
              ordered previous member ticked (List.mem_singleton_self _))
            invariant.pendingEncoded

/-- A tick of a run was taken in the state that the run had reached. -/
theorem exists_execution_of_ticksOf
    {initial final : Scheduling snow}
    {events : List (SchedulingEvent snow)}
    {earlier later : List (Ticked snow)}
    {ticked : Ticked snow}
    (execution : Execution SchedulingStep initial events final)
    (isTick : ticksOf events = earlier ++ ticked :: later) :
    ∃ before,
      ticksOf before = earlier ∧
        Execution SchedulingStep initial before ticked.before := by
  obtain ⟨before, rest, rfl, isEarlier, isRest⟩ :=
    List.filterMap_eq_append_iff.mp isTick
  obtain ⟨calls, event, after, rfl, noTicks, isTicked, _⟩ :=
    List.filterMap_eq_cons_iff.mp isRest
  have split :
      before ++ (calls ++ event :: after) =
        (before ++ calls ++ [event]) ++ after := by
    simp
  rw [split] at execution
  obtain ⟨_, first, _⟩ := execution.split
  obtain ⟨middle, reached, taken⟩ := first.last_step
  refine ⟨before ++ calls, ?_, ?_⟩
  · rw [ticksOf_append, ← isEarlier]
    have noneOf : ticksOf calls = [] :=
      List.filterMap_eq_nil_iff.mpr noTicks
    rw [noneOf, List.append_nil]
    rfl
  · cases taken with
    | tick =>
        cases isTicked
        exact reached
    | call =>
        cases isTicked

/--
Recoveries and keepalives are rate limited in every run whose clock does not
run back.
-/
theorem scheduler_rate_limited
    {config : Config}
    {localStatic : Key}
    {router : Router}
    {events : List (SchedulingEvent snow)}
    {final : Scheduling snow}
    (execution :
      Execution SchedulingStep (.start config localStatic router) events
        final)
    (chronological : Chronological (ticksOf events))
    {earlier later : List (Ticked snow)}
    {ticked : Ticked snow}
    (isTick : ticksOf events = earlier ++ ticked :: later) :
    ticked.RateLimited earlier := by
  obtain ⟨before, rfl, reached⟩ := exists_execution_of_ticksOf execution isTick
  have invariant := SchedulingInvariant.of_execution reached
  rw [isTick] at chronological
  have ledger := invariant.ledger (List.pairwise_append.mp chronological).1
  refine ledger.rateLimited invariant.pendingEncoded ?_
  rw [invariant.peers]
  intro peer member policy hasPolicy
  exact EngineScheduler.timeout_pos member hasPolicy

namespace RateLimitExample

open AgreementExample (complete endpoint idle initiate localStatic router started)

/-- One peer that is silent after a minute. -/
def config : Config where
  interface :=
    { name := "hush0"
      address := { address := 0x0A070001, prefixLen := 24 }
      listen := endpoint
      transport := .udp
      mtu := 1400
      privateKey := "" }
  gateway := none
  peer :=
    [{ name := "second"
       endpoint := .ofSocketAddr "10.0.0.1" endpoint
       allowedIps := [{ address := 0, prefixLen := 0 }]
       excludedIps := []
       psk := ""
       publicKey := ""
       persistentKeepalive := 25
       udpRebindAfter := 60
       sessionTimeout := none }]

def input (seconds : Nat) : TickInput PlainNoise.snow where
  now := fromSecs seconds
  draws _ _ := { id := .fill 9, ephemeral := (6 : UInt8) }
  rebindUdp _ _ := false

/-- A tick that sends a keepalive. -/
def first : Ticked PlainNoise.snow where
  before := ⟨.new config, (started.perform complete).2⟩
  input := input 1

/-- A tick that finds the peer silent. -/
def second : Ticked PlainNoise.snow where
  before := first.after
  input := input 61

theorem run :
    Execution SchedulingStep (.start config (localStatic .first) (router .first))
      [.call (idle .first) initiate, .call started complete, .tick first,
        .tick second]
      second.after :=
  .snoc (.snoc (.snoc (.single (.call (idle .first) initiate))
    (.call started complete)) (.tick first)) (.tick second)

theorem second_recovers : second.result.events ≠ [] := by
  decide +kernel

end RateLimitExample

open RateLimitExample in
/-- A silent peer is recovered a minute after a keepalive was sent to it. -/
theorem scheduler_rate_limited_example :
    second.result.events ≠ [] ∧ second.RateLimited [first] :=
  ⟨second_recovers,
    scheduler_rate_limited run
      (List.pairwise_pair.mpr (by decide)) rfl⟩

end HushWire
