import HushWire.RebindBroadcast

namespace HushWire

open Noise

/-!
# Keepalives keep a mapping alive

A peer with a persistent keepalive is sent one packet at least in every window
of ticks that is as long as its interval, whatever else is done in between: no
NAT mapping on the way is left unused for longer, as long as the peer has a
session and an endpoint and is not being recovered.
-/

variable {snow : Snow}

/-- A recovery of another peer leaves a peer as it is. -/
theorem EngineScheduler.recover_unaffected
    {input : TickInput snow}
    {progress : TickProgress snow}
    (encoded : progress.engine.PendingEncoded)
    (noEvents : progress.tick.events = [])
    {peerName : PeerName}
    (others :
      ∀ event ∈ (recover input progress).1.tick.events,
        event.peerName ≠ peerName) :
    Unaffected peerName progress (recover input progress).1 := by
  unfold recover at others ⊢
  cases first :
      progress.scheduler.firstRecovery progress.engine input.now with
  | none =>
      exact .refl peerName progress
  | some found =>
      obtain ⟨⟨peer, position⟩, policy, lastSeen⟩ := found
      rw [first] at others
      simp only [SchedulerTick.events_pushEngineOutput, noEvents,
        List.nil_append, List.mem_singleton, forall_eq] at others
      refine
        @Rebound.unaffected _ peer.name input progress _ ?_ _
          (Ne.symm others)
      exact
        { engine := ⟨_, rfl⟩
          peers := by simp
          lastSent := by simp
          frames := fun queried =>
            Engine.PendingEncoded.transportFrames_initiateHandshake
              (encoded.perform (.invalidatePeer peer.name)) progress.tick
              peer.name .sessionRecovery _ input.now queried }

namespace EngineScheduler

section Keepalive

variable
  {input : TickInput snow}
  {rebound : Bool}
  {progress : TickProgress snow}
  (entry : ScheduledPeer × Nat)

/-- A keepalive that is due is one packet under the session of the peer. -/
theorem sendKeepalive_due
    (limits : NoiseLimits snow)
    (starts : snow.StartsHandshakes)
    (encoded : progress.engine.PendingEncoded)
    {routed : Peer}
    {endpoint : SocketAddr}
    {session : Session snow}
    (isRouted : progress.engine.peer entry.1.name = some routed)
    (resolved : progress.engine.resolveEndpoint routed = some endpoint)
    (active :
      progress.engine.sessions.sessions.lookup entry.1.name = some session)
    (unexpired : session.isExpired input.now = false)
    (should :
      keepaliveShouldSend input.now
        (progress.scheduler.lastSent.lookup entry.1.name)
        entry.1.persistentKeepalive entry.1.recovery.isSome rebound = true) :
    (∃ payload frame,
        (session.encrypt .keepalive payload).1 = .ok frame ∧
          (sendKeepalive input rebound progress entry).tick.transportFrames
              entry.1.name =
            progress.tick.transportFrames entry.1.name ++ [frame]) ∧
      (sendKeepalive input rebound progress entry).scheduler.lastSent.lookup
          entry.1.name =
        some input.now ∧
      (sendKeepalive input rebound progress entry).engine.PendingEncoded := by
  obtain ⟨peer, position⟩ := entry
  dsimp only at isRouted active should
  have isActive :
      progress.engine.hasActiveSession peer.name input.now = true := by
    simp [Engine.hasActiveSession, SessionState.hasActiveSession, active,
      unexpired]
  have fits :
      (if peer.recovery.isSome then Auth.keepaliveProbePayload else []).length +
          1 + aeadTagSize ≤
        maxNoiseMessageSize := by
    split <;> decide
  obtain ⟨output, frame, created, encrypted, isFrame⟩ :=
    Engine.createKeepalive_active limits starts encoded isRouted resolved
      active unexpired fits (input.draws .keepalive position)
  refine ⟨⟨_, frame, encrypted, ?_⟩, ?_, ?_⟩
  · simp [sendKeepalive, should, created, isFrame,
      SchedulerTick.transportFrames_pushEngineOutput]
  · simp [sendKeepalive, should, isActive]
  · simp only [sendKeepalive, should, if_true]
    exact encoded.perform
      (.createKeepalive peer.name
        (if peer.recovery.isSome then Auth.keepaliveProbePayload else [])
        (input.draws .keepalive position) input.now)

/-- A peer whose keepalive is not due is noted, if it was not. -/
theorem sendKeepalive_early
    (periodic : entry.1.persistentKeepalive ≠ 0)
    (early :
      keepaliveShouldSend input.now
        (progress.scheduler.lastSent.lookup entry.1.name)
        entry.1.persistentKeepalive entry.1.recovery.isSome rebound = false) :
    (sendKeepalive input rebound progress entry).scheduler.lastSent.lookup
          entry.1.name =
        some
          ((progress.scheduler.lastSent.lookup entry.1.name).getD
            input.now) ∧
      ∀ sent,
        progress.scheduler.lastSent.lookup entry.1.name = some sent →
        input.now - sent < entry.1.persistentKeepalive := by
  obtain ⟨peer, position⟩ := entry
  dsimp only at periodic early
  cases noted : progress.scheduler.lastSent.lookup peer.name with
  | none =>
      rw [noted] at early
      simp [sendKeepalive, early, periodic, noteUnlessSent, noted]
  | some sent =>
      rw [noted] at early
      have recent : input.now - sent < peer.persistentKeepalive := by
        cases rebound <;>
          simp [keepaliveShouldSend, periodic] at early
        exact early
      simp [sendKeepalive, early, periodic, noteUnlessSent, noted, recent]

end Keepalive

end EngineScheduler

namespace Ticked

variable {ticked : Ticked snow}

/--
The peer has an endpoint and an unexpired session when the tick starts, and
the tick does not recover it.
-/
structure Reaches
    (ticked : Ticked snow)
    (peerName : PeerName)
    (session : Session snow) :
    Prop where
  active :
    ticked.before.engine.sessions.sessions.lookup peerName = some session
  unexpired : session.isExpired ticked.now = false
  resolved :
    ∃ routed endpoint,
      ticked.before.engine.peer peerName = some routed ∧
        ticked.before.engine.resolveEndpoint routed = some endpoint
  healthy : ∀ event ∈ ticked.result.events, event.peerName ≠ peerName

/-- What a tick does for a peer it reaches is one keepalive step. -/
theorem Reaches.step
    (encoded : ticked.before.engine.PendingEncoded)
    (names : (ticked.before.scheduler.peers.map ScheduledPeer.name).Nodup)
    {peer : ScheduledPeer}
    (member : peer ∈ ticked.before.scheduler.peers)
    {session : Session snow}
    (reaches : ticked.Reaches peer.name session) :
    ∃ rebound progress position,
      Unaffected peer.name ticked.start progress ∧
        ((EngineScheduler.sendKeepalive ticked.input rebound progress
            (peer, position)).engine.PendingEncoded →
          Unaffected peer.name
            (EngineScheduler.sendKeepalive ticked.input rebound progress
              (peer, position))
            ticked.progress) := by
  have afterRetries : Unaffected peer.name ticked.start ticked.retried :=
    .foldl encoded fun _ progressEncoded unaffected entry _ =>
      .retryHandshake progressEncoded
        (unaffected.engine.session.trans reaches.active) reaches.unexpired
        entry
  have healthy := reaches.healthy
  rw [ticked.events_eq] at healthy
  have afterRecovery :
      Unaffected peer.name ticked.start
        (EngineScheduler.recover ticked.input ticked.retried).1 :=
    afterRetries.trans
      (EngineScheduler.recover_unaffected
        (ticked.retries.pendingEncoded encoded) ticked.retries.events healthy)
  generalize isRebound :
    (EngineScheduler.recover ticked.input ticked.retried).2 = rebound
  obtain ⟨earlier, later, isSplit⟩ := List.append_of_mem member
  have isProgress :
      ticked.progress =
        ticked.before.scheduler.peers.zipIdx.foldl
          (EngineScheduler.sendKeepalive ticked.input rebound)
          (EngineScheduler.recover ticked.input ticked.retried).1 := by
    rw [← isRebound]
    rfl
  rw [isSplit, List.map_append, List.map_cons] at names
  obtain ⟨_, laterNames, disjoint⟩ := List.nodup_append.mp names
  rw [isSplit, List.zipIdx_append, List.zipIdx_cons, List.foldl_append,
    List.foldl_cons] at isProgress
  have earlierOthers :
      ∀ entry ∈ earlier.zipIdx, peer.name ≠ entry.1.name := by
    intro entry isEarlier same
    have isName :=
      List.mem_map_of_mem (f := ScheduledPeer.name)
        (List.fst_mem_of_mem_zipIdx isEarlier)
    exact disjoint entry.1.name isName peer.name (by simp) same.symm
  have laterOthers :
      ∀ entry ∈ later.zipIdx (0 + earlier.length + 1),
        peer.name ≠ entry.1.name := by
    intro entry isLater same
    have isName :=
      List.mem_map_of_mem (f := ScheduledPeer.name)
        (List.fst_mem_of_mem_zipIdx isLater)
    rw [← same] at isName
    exact (List.nodup_cons.mp laterNames).1 isName
  refine
    ⟨rebound,
      earlier.zipIdx.foldl
        (EngineScheduler.sendKeepalive ticked.input rebound)
        (EngineScheduler.recover ticked.input ticked.retried).1,
      0 + earlier.length, ?_, ?_⟩
  · exact
      afterRecovery.trans
        (.sendKeepalives (afterRecovery.pendingEncoded encoded) earlierOthers)
  · intro sentEncoded
    rw [isProgress]
    exact .sendKeepalives sentEncoded laterOthers

/-- A tick sends a peer it reaches its keepalive, or it is too early. -/
theorem Reaches.announcesTo_or_early
    (limits : NoiseLimits snow)
    (starts : snow.StartsHandshakes)
    (encoded : ticked.before.engine.PendingEncoded)
    (names : (ticked.before.scheduler.peers.map ScheduledPeer.name).Nodup)
    {peer : ScheduledPeer}
    (member : peer ∈ ticked.before.scheduler.peers)
    (periodic : peer.persistentKeepalive ≠ 0)
    {session : Session snow}
    (reaches : ticked.Reaches peer.name session) :
    ticked.AnnouncesTo peer.name session ∨
      ticked.after.scheduler.lastSent.lookup peer.name =
          some
            ((ticked.before.scheduler.lastSent.lookup peer.name).getD
              ticked.now) ∧
        ∀ sent,
          ticked.before.scheduler.lastSent.lookup peer.name = some sent →
          ticked.now - sent < peer.persistentKeepalive := by
  obtain ⟨rebound, progress, position, waited, finishes⟩ :=
    reaches.step encoded names member
  obtain ⟨routed, endpoint, isRouted, resolved⟩ := reaches.resolved
  have progressEncoded := waited.pendingEncoded encoded
  by_cases should :
      keepaliveShouldSend ticked.input.now
        (progress.scheduler.lastSent.lookup peer.name)
        peer.persistentKeepalive peer.recovery.isSome rebound = true
  · obtain ⟨⟨payload, frame, encrypted, isFrame⟩, isSent, sentEncoded⟩ :=
      EngineScheduler.sendKeepalive_due (peer, position) limits starts
        progressEncoded ((waited.engine.peer peer.name).trans isRouted)
        ((waited.engine.resolveEndpoint routed).trans resolved)
        (waited.engine.session.trans reaches.active) reaches.unexpired should
    have finished := finishes sentEncoded
    refine Or.inl
      ⟨⟨payload, frame, encrypted, ?_⟩, finished.lastSent.trans isSent⟩
    have noFrames : ticked.start.tick.transportFrames peer.name = [] := rfl
    have frames := finished.frames.trans isFrame
    rw [waited.frames, noFrames, List.nil_append] at frames
    exact frames
  · have early := Bool.eq_false_iff.mpr should
    obtain ⟨isNoted, recent⟩ :=
      EngineScheduler.sendKeepalive_early (peer, position) periodic early
    have stillEncoded :
        (EngineScheduler.sendKeepalive ticked.input rebound progress
          (peer, position)).engine.PendingEncoded := by
      simpa [EngineScheduler.sendKeepalive, early, periodic] using
        progressEncoded
    have finished := finishes stillEncoded
    have isLastSent := finished.lastSent.trans isNoted
    dsimp only at isLastSent recent
    rw [waited.lastSent] at isLastSent recent
    exact Or.inr ⟨isLastSent, recent⟩

end Ticked

/-- Between two ticks nothing is noted. -/
theorem scheduler_of_last_tick
    {initial final : Scheduling snow}
    {events : List (SchedulingEvent snow)}
    (execution : Execution SchedulingStep initial events final)
    {earlier : List (Ticked snow)}
    {last : Ticked snow}
    (isLast : ticksOf events = earlier ++ [last]) :
    final.scheduler = last.after.scheduler := by
  induction execution with
  | nil =>
      simp [ticksOf] at isLast
  | snoc _ taken inductionHypothesis =>
      rw [ticksOf_append] at isLast
      cases taken with
      | tick ticked =>
          obtain ⟨_, same⟩ := List.append_inj' isLast rfl
          cases same
          rfl
      | call before call =>
          rw [show ticksOf [SchedulingEvent.call before call] = [] from rfl,
            List.append_nil] at isLast
          exact inductionHypothesis isLast

/-- What is noted as sent is the instant of a tick. -/
theorem lastSent_of_execution
    {config : Config}
    {localStatic : Key}
    {router : Router}
    {events : List (SchedulingEvent snow)}
    {final : Scheduling snow}
    (execution :
      Execution SchedulingStep (.start config localStatic router) events
        final)
    {peerName : PeerName}
    {sent : Instant}
    (noted : final.scheduler.lastSent.lookup peerName = some sent) :
    ∃ ticked ∈ ticksOf events, ticked.now = sent := by
  induction execution with
  | nil =>
      cases noted
  | snoc earlier taken inductionHypothesis =>
      rw [ticksOf_append]
      cases taken with
      | call before call =>
          obtain ⟨ticked, member, isNow⟩ := inductionHypothesis noted
          exact ⟨ticked, List.mem_append_left _ member, isNow⟩
      | tick ticked =>
          have encoded :=
            (SchedulingInvariant.of_execution earlier).pendingEncoded
          rcases (ticked.keepalives encoded peerName).1 with kept | isNow
          · obtain ⟨found, member, same⟩ :=
              inductionHypothesis (kept.symm.trans noted)
            exact ⟨found, List.mem_append_left _ member, same⟩
          · exact
              ⟨ticked, List.mem_append_right _ (.head _),
                Option.some.inj (isNow.symm.trans noted)⟩

section Windows

variable
  {decodeBase64 : String → Option Bytes}
  {config : Config}
  {localStatic : Key}
  {router : Router}
  {events : List (SchedulingEvent snow)}
  {final : Scheduling snow}
  {peerConfig : PeerConfig}

/-- What a tick of a run does for a peer with a keepalive that it reaches. -/
theorem tick_announces_or_early
    (limits : NoiseLimits snow)
    (starts : snow.StartsHandshakes)
    (accepted : config.validate decodeBase64 = .ok ())
    {ticked : Ticked snow}
    (execution :
      Execution SchedulingStep (.start config localStatic router) events
        ticked.before)
    (configured : peerConfig ∈ config.peer)
    (periodic : peerConfig.persistentKeepalive ≠ 0)
    {session : Session snow}
    (reaches : ticked.Reaches peerConfig.name session) :
    ticked.AnnouncesTo peerConfig.name session ∨
      ticked.after.scheduler.lastSent.lookup peerConfig.name =
          some
            ((ticked.before.scheduler.lastSent.lookup
              peerConfig.name).getD ticked.now) ∧
        ∀ sent,
          ticked.before.scheduler.lastSent.lookup peerConfig.name =
            some sent →
          ticked.now - sent <
            fromSecs peerConfig.persistentKeepalive.toNat := by
  have invariant := SchedulingInvariant.of_execution execution
  have isPeer :
      ScheduledPeer.ofConfig config.interface.transport peerConfig ∈
        ticked.before.scheduler.peers := by
    rw [invariant.peers]
    exact List.mem_map_of_mem configured
  have names :
      (ticked.before.scheduler.peers.map ScheduledPeer.name).Nodup := by
    rw [invariant.peers]
    exact EngineScheduler.new_names accepted
  have interval :
      (ScheduledPeer.ofConfig config.interface.transport
        peerConfig).persistentKeepalive ≠ 0 := by
    have positive : peerConfig.persistentKeepalive.toNat ≠ 0 := fun isZero =>
      periodic (UInt16.toNat_inj.mp isZero)
    simp only [ScheduledPeer.ofConfig, fromSecs]
    omega
  exact
    Ticked.Reaches.announcesTo_or_early limits starts
      invariant.pendingEncoded names isPeer interval reaches

/-- A keepalive that is noted is repeated within its interval. -/
theorem keepalive_repeated
    (limits : NoiseLimits snow)
    (starts : snow.StartsHandshakes)
    (accepted : config.validate decodeBase64 = .ok ())
    (execution :
      Execution SchedulingStep (.start config localStatic router) events
        final)
    (configured : peerConfig ∈ config.peer)
    (periodic : peerConfig.persistentKeepalive ≠ 0)
    {earlier window rest : List (Ticked snow)}
    {previous : Ticked snow}
    {sent : Instant}
    (isWindow : ticksOf events = earlier ++ previous :: (window ++ rest))
    (noted :
      previous.after.scheduler.lastSent.lookup peerConfig.name = some sent)
    (reached :
      ∀ ticked ∈ window,
        ∃ session, ticked.Reaches peerConfig.name session)
    (long :
      ∃ ticked ∈ window,
        sent + fromSecs peerConfig.persistentKeepalive.toNat ≤ ticked.now) :
    ∃ ticked ∈ window,
      ∃ session,
        ticked.Reaches peerConfig.name session ∧
          ticked.AnnouncesTo peerConfig.name session := by
  induction window generalizing earlier previous with
  | nil =>
      obtain ⟨_, member, _⟩ := long
      cases member
  | cons ticked window inductionHypothesis =>
      have isTick :
          ticksOf events =
            (earlier ++ [previous]) ++ ticked :: (window ++ rest) := by
        simpa using isWindow
      obtain ⟨before, isBefore, reachedState⟩ :=
        exists_execution_of_ticksOf execution isTick
      have sameScheduler := scheduler_of_last_tick reachedState isBefore
      obtain ⟨session, reaches⟩ := reached ticked (.head _)
      rcases tick_announces_or_early limits starts accepted reachedState
          configured periodic reaches with announces | ⟨kept, recent⟩
      · exact ⟨ticked, .head _, session, reaches, announces⟩
      · rw [sameScheduler, noted, Option.getD_some] at kept
        rw [sameScheduler] at recent
        have tooEarly := recent sent noted
        obtain ⟨late, member, isLate⟩ := long
        have isLater : late ∈ window := by
          rcases List.mem_cons.mp member with rfl | isLater
          · exact absurd tooEarly
              (Nat.not_lt.mpr (Nat.le_sub_of_add_le' isLate))
          · exact isLater
        obtain ⟨found, isFound, session, foundReaches, announces⟩ :=
          inductionHypothesis isTick kept
            (fun next isNext => reached next (.tail _ isNext))
            ⟨late, isLater, isLate⟩
        exact ⟨found, .tail _ isFound, session, foundReaches, announces⟩

/--
In a run a peer with a persistent keepalive that every tick reaches is sent a
packet under its session in every window of ticks as long as the interval.
-/
theorem keepalive_in_every_window
    (limits : NoiseLimits snow)
    (starts : snow.StartsHandshakes)
    (accepted : config.validate decodeBase64 = .ok ())
    (execution :
      Execution SchedulingStep (.start config localStatic router) events
        final)
    (chronological : Chronological (ticksOf events))
    (configured : peerConfig ∈ config.peer)
    (periodic : peerConfig.persistentKeepalive ≠ 0)
    {earlier window rest : List (Ticked snow)}
    {first : Ticked snow}
    (isWindow : ticksOf events = earlier ++ first :: (window ++ rest))
    (reached :
      ∀ ticked ∈ first :: window,
        ∃ session, ticked.Reaches peerConfig.name session)
    (long :
      ∃ last ∈ window,
        first.now + fromSecs peerConfig.persistentKeepalive.toNat ≤
          last.now) :
    ∃ ticked ∈ window,
      ∃ session,
        ticked.Reaches peerConfig.name session ∧
          ticked.AnnouncesTo peerConfig.name session := by
  obtain ⟨before, isBefore, reachedState⟩ :=
    exists_execution_of_ticksOf execution isWindow
  obtain ⟨session, reaches⟩ := reached first (.head _)
  have noted :
      ∃ sent ≤ first.now,
        first.after.scheduler.lastSent.lookup peerConfig.name =
          some sent := by
    rcases tick_announces_or_early limits starts accepted reachedState
        configured periodic reaches with announces | ⟨kept, _⟩
    · exact ⟨first.now, Nat.le_refl _, announces.lastSent⟩
    · refine ⟨_, ?_, kept⟩
      cases former :
          first.before.scheduler.lastSent.lookup peerConfig.name with
      | none =>
          exact Nat.le_refl _
      | some sent =>
          obtain ⟨ticked, member, rfl⟩ :=
            lastSent_of_execution reachedState former
          rw [isBefore] at member
          rw [isWindow] at chronological
          exact
            (List.pairwise_append.mp chronological).2.2 ticked member first
              (.head _)
  obtain ⟨sent, isEarlier, isNoted⟩ := noted
  obtain ⟨last, member, isLate⟩ := long
  exact
    keepalive_repeated limits starts accepted execution configured periodic
      isWindow isNoted (fun ticked isTick => reached ticked (.tail _ isTick))
      ⟨last, member, (Nat.add_le_add_right isEarlier _).trans isLate⟩

end Windows

namespace CadenceExample

open TwoPeersExample

/-- The next tick after the first whose keepalive is due. -/
def atThirty : Ticked PlainNoise.snow where
  before := first.after
  input := input 30 false

theorem run :
    Execution SchedulingStep (.start oneSided (.fill 1) router)
      [.call hub (initiate "second" 7), .call afterInitiation toSecond,
        .call afterSecond (initiate "third" 9), .call afterBoth toThird,
        .tick first, .tick atThirty]
      atThirty.after :=
  .snoc oneSided_run (.tick atThirty)

/-- The hub reaches the second peer at a tick without recoveries. -/
theorem reaches
    {ticked : Ticked PlainNoise.snow}
    (unexpired :
      (ticked.before.engine.sessions.sessions.lookup "second").map
        (fun session => session.isExpired ticked.now) = some false)
    (isRouted :
      ticked.before.engine.peer "second" = some (peer "second" (.fill 2)))
    (resolved :
      ticked.before.engine.resolveEndpoint (peer "second" (.fill 2)) =
        some AgreementExample.endpoint)
    (healthy : ticked.result.events = []) :
    ∃ session, ticked.Reaches "second" session := by
  obtain ⟨session, active, isUnexpired⟩ := Option.map_eq_some_iff.mp unexpired
  exact
    ⟨session,
      { active
        unexpired := isUnexpired
        resolved := ⟨_, _, isRouted, resolved⟩
        healthy := by simp [healthy] }⟩

theorem reached :
    ∀ ticked ∈ [first, atThirty],
      ∃ session, ticked.Reaches "second" session := by
  intro ticked member
  rcases List.mem_cons.mp member with rfl | isLast
  · exact
      reaches (by decide +kernel) (by decide +kernel) (by decide +kernel)
        (by decide +kernel)
  · rw [List.mem_singleton.mp isLast]
    exact
      reaches (by decide +kernel) (by decide +kernel) (by decide +kernel)
        (by decide +kernel)

end CadenceExample

open CadenceExample TwoPeersExample in
/-- The keepalive is repeated twenty-nine seconds after the first one. -/
theorem keepalive_in_every_window_example :
    ∃ session, atThirty.AnnouncesTo "second" session := by
  obtain ⟨ticked, member, session, _, announces⟩ :=
    @keepalive_in_every_window _ decodeBase64 oneSided (.fill 1) router _ _
      (peerConfig "second" "a" 25 60) PlainNoise.limits
      PlainNoise.startsHandshakes oneSided_accepted run
      (by simp [Chronological, ticksOf, SchedulingEvent.ticked?]; decide)
      (by simp [oneSided, config]) (by decide) [] [atThirty] [] first rfl
      reached ⟨atThirty, .head _, by decide⟩
  rw [List.mem_singleton.mp member] at announces
  exact ⟨session, announces⟩

end HushWire
