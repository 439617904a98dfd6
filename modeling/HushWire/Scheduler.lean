import HushWire.Config
import HushWire.Engine

namespace HushWire

/-!
# Session maintenance

Every tick of the scheduler retries pending handshakes, recovers at most one
peer that has fallen silent, and sends keepalives.  It is given the instant,
which the engine reads as well, the randomness of the handshakes it may start,
and the rebind of the UDP socket, of which it learns whether it succeeded.
-/

open Noise

inductive ScheduledOperation where
  | handshakeRetry
  | sessionRecovery
  | keepalive
  deriving DecidableEq

namespace ScheduledOperation

def label : ScheduledOperation → String
  | .handshakeRetry => "handshake retry"
  | .sessionRecovery => "session recovery"
  | .keepalive => "keepalive"

end ScheduledOperation

structure ScheduledOutput where
  operation : ScheduledOperation
  output : EngineOutput
  deriving DecidableEq

inductive SchedulerEvent where
  | recovery
      (peerName : PeerName)
      (silence : Nat)
      (rebindUdp rebindSucceeded hadStaleState : Bool)
  deriving DecidableEq

structure SchedulerError (snow : Snow) where
  peerName : PeerName
  operation : ScheduledOperation
  error : EngineError snow

structure SchedulerTick (snow : Snow) where
  outputs : List ScheduledOutput
  events : List SchedulerEvent
  errors : List (SchedulerError snow)

/-- How long a peer may be silent, and whether the socket is then rebound. -/
structure RecoveryPolicy where
  timeout : Nat
  rebindUdp : Bool
  deriving DecidableEq

structure ScheduledPeer where
  name : PeerName
  persistentKeepalive : Nat
  recovery : Option RecoveryPolicy
  deriving DecidableEq

/-- Timing state for one running engine. -/
structure EngineScheduler where
  peers : List ScheduledPeer
  lastSent : AssociationMap PeerName Instant
  lastUdpRebindAttempt : Option Instant
  lastSessionRecoveryAttempt : AssociationMap PeerName Instant

def recoveryPolicy
    (transport : TransportConfig)
    (udpRebindAfter : UInt16)
    (sessionTimeout : UInt64) :
    Option RecoveryPolicy :=
  if transport = .udp ∧ 0 < udpRebindAfter then
    some
      { timeout := fromSecs udpRebindAfter.toNat
        rebindUdp := true }
  else if 0 < sessionTimeout then
    some
      { timeout := fromSecs sessionTimeout.toNat
        rebindUdp := false }
  else
    none

/-- The silence is counted from the last attempt, if that is later. -/
def recoveryDue
    (now lastSeen : Instant)
    (lastRecoveryAttempt : Option Instant)
    (timeout : Nat) :
    Bool :=
  let healthBaseline :=
    (lastRecoveryAttempt.map fun attempt => max attempt lastSeen).getD lastSeen
  timeout ≤ now - healthBaseline

def keepaliveShouldSend
    (now : Instant)
    (lastSent : Option Instant)
    (interval : Nat)
    (recoveryEnabled rebound : Bool) :
    Bool :=
  if rebound then
    true
  else if interval = 0 then
    false
  else
    (lastSent.map fun sent => decide (interval ≤ now - sent)).getD
      recoveryEnabled

/-- What the scheduler keeps of the configuration of a peer. -/
def ScheduledPeer.ofConfig
    (transport : TransportConfig)
    (peer : PeerConfig) :
    ScheduledPeer where
  name := peer.name
  persistentKeepalive := fromSecs peer.persistentKeepalive.toNat
  recovery :=
    recoveryPolicy transport peer.udpRebindAfter
      (peer.effectiveSessionTimeout transport)

namespace Engine

variable {snow : Snow}

def hasPendingHandshake
    (engine : Engine snow)
    (peerName : PeerName) :
    Bool :=
  engine.sessions.hasPendingInit peerName

/-- The session is not expired when the clock shows `clock`. -/
def hasActiveSession
    (engine : Engine snow)
    (peerName : PeerName)
    (clock : Instant) :
    Bool :=
  engine.sessions.hasActiveSession peerName clock

/-- The instant at which a peer was last seen. -/
def lastSeen (engine : Engine snow) (peerName : PeerName) : Option Instant :=
  (engine.peers.lookup peerName).bind PeerStats.lastSeen

end Engine

namespace SchedulerTick

variable {snow : Snow}

/-- `SchedulerTick::default`. -/
def empty : SchedulerTick snow where
  outputs := []
  events := []
  errors := []

def pushEngineOutput
    (tick : SchedulerTick snow)
    (peerName : PeerName)
    (operation : ScheduledOperation) :
    Except (EngineError snow) EngineOutput → SchedulerTick snow
  | .ok output =>
      { tick with outputs := tick.outputs ++ [{ operation, output }] }
  | .error error =>
      { tick with errors := tick.errors ++ [{ peerName, operation, error }] }

end SchedulerTick

/-- What a tick has done so far. -/
structure TickProgress (snow : Snow) where
  scheduler : EngineScheduler
  engine : Engine snow
  tick : SchedulerTick snow

/-- What a tick is given. -/
structure TickInput (snow : Snow) where
  now : Instant
  /-- The draw for an operation on the peer at a position. -/
  draws : ScheduledOperation → Nat → Draw snow
  rebindUdp : PeerName → Nat → Bool

namespace EngineScheduler

variable {snow : Snow}

def new (config : Config) : EngineScheduler where
  peers :=
    config.peer.map (ScheduledPeer.ofConfig config.interface.transport)
  lastSent := ∅
  lastUdpRebindAttempt := none
  lastSessionRecoveryAttempt := ∅

/-- Retry the handshake of a peer that has one pending. -/
def retryHandshake
    (input : TickInput snow)
    (progress : TickProgress snow)
    (entry : ScheduledPeer × Nat) :
    TickProgress snow :=
  let (peer, position) := entry
  if progress.engine.hasPendingHandshake peer.name then
    let (result, engine) :=
      progress.engine.initiateHandshake peer.name
        (input.draws .handshakeRetry position) input.now
    { progress with
      engine
      tick := progress.tick.pushEngineOutput peer.name .handshakeRetry result }
  else
    progress

/-- The policy by which a peer is to be recovered, and when it was seen. -/
def recoveryOf
    (scheduler : EngineScheduler)
    (engine : Engine snow)
    (now : Instant)
    (peer : ScheduledPeer) :
    Option (RecoveryPolicy × Instant) :=
  match peer.recovery with
  | none => none
  | some policy =>
      if (scheduler.lastSent.lookup peer.name).isNone ||
          !engine.hasActiveSession peer.name now then
        none
      else
        match engine.lastSeen peer.name with
        | none => none
        | some lastSeen =>
            let lastAttempt :=
              if policy.rebindUdp then
                scheduler.lastUdpRebindAttempt
              else
                scheduler.lastSessionRecoveryAttempt.lookup peer.name
            if recoveryDue now lastSeen lastAttempt policy.timeout then
              some (policy, lastSeen)
            else
              none

/-- The first peer that is to be recovered, with its position. -/
def firstRecovery
    (scheduler : EngineScheduler)
    (engine : Engine snow)
    (now : Instant) :
    Option ((ScheduledPeer × Nat) × RecoveryPolicy × Instant) :=
  scheduler.peers.zipIdx.findSome? fun entry =>
    (scheduler.recoveryOf engine now entry.1).map fun due => (entry, due)

/-- Note that a peer is about to be recovered. -/
def noteRecovery
    (scheduler : EngineScheduler)
    (peer : ScheduledPeer)
    (policy : RecoveryPolicy)
    (now : Instant) :
    EngineScheduler :=
  if policy.rebindUdp then
    { scheduler with lastUdpRebindAttempt := some now }
  else
    { scheduler with
      lastSessionRecoveryAttempt :=
        scheduler.lastSessionRecoveryAttempt.insert peer.name now }

/-- Recover the first peer that is due; says whether the socket was rebound. -/
def recover
    (input : TickInput snow)
    (progress : TickProgress snow) :
    TickProgress snow × Bool :=
  match progress.scheduler.firstRecovery progress.engine input.now with
  | none => (progress, false)
  | some ((peer, position), policy, lastSeen) =>
      let silence := input.now - lastSeen
      let rebindSucceeded :=
        policy.rebindUdp && input.rebindUdp peer.name silence
      let (hadStaleState, engine) := progress.engine.invalidatePeer peer.name
      let (result, engine) :=
        engine.initiateHandshake peer.name
          (input.draws .sessionRecovery position) input.now
      let tick :=
        progress.tick.pushEngineOutput peer.name .sessionRecovery result
      ({ scheduler := progress.scheduler.noteRecovery peer policy input.now
         engine
         tick :=
           { tick with
             events :=
               tick.events ++
                 [.recovery peer.name silence policy.rebindUdp rebindSucceeded
                   hadStaleState] } },
        rebindSucceeded)

/-- `last_sent.entry(name).or_insert(now)`. -/
def noteUnlessSent
    (scheduler : EngineScheduler)
    (peerName : PeerName)
    (now : Instant) :
    EngineScheduler :=
  match scheduler.lastSent.lookup peerName with
  | some _ => scheduler
  | none =>
      { scheduler with lastSent := scheduler.lastSent.insert peerName now }

/-- Send a keepalive to a peer if it is time. -/
def sendKeepalive
    (input : TickInput snow)
    (rebound : Bool)
    (progress : TickProgress snow)
    (entry : ScheduledPeer × Nat) :
    TickProgress snow :=
  let (peer, position) := entry
  let recoveryEnabled := peer.recovery.isSome
  let shouldSend :=
    keepaliveShouldSend input.now
      (progress.scheduler.lastSent.lookup peer.name) peer.persistentKeepalive
      recoveryEnabled rebound
  if shouldSend then
    let hadActiveSession :=
      progress.engine.hasActiveSession peer.name input.now
    let payload := if recoveryEnabled then Auth.keepaliveProbePayload else []
    let (result, engine) :=
      progress.engine.createKeepalive peer.name payload
        (input.draws .keepalive position) input.now
    { scheduler :=
        if hadActiveSession || !recoveryEnabled then
          { progress.scheduler with
            lastSent := progress.scheduler.lastSent.insert peer.name input.now }
        else
          progress.scheduler
      engine
      tick := progress.tick.pushEngineOutput peer.name .keepalive result }
  else if peer.persistentKeepalive ≠ 0 then
    { progress with
      scheduler := progress.scheduler.noteUnlessSent peer.name input.now }
  else
    progress

/-- The part of a tick before the keepalives. -/
def beforeKeepalives
    (scheduler : EngineScheduler)
    (engine : Engine snow)
    (input : TickInput snow) :
    TickProgress snow × Bool :=
  recover input
    (scheduler.peers.zipIdx.foldl (retryHandshake input)
      { scheduler, engine, tick := .empty })

/-- Run one maintenance tick. -/
def tick
    (scheduler : EngineScheduler)
    (engine : Engine snow)
    (input : TickInput snow) :
    TickProgress snow :=
  let (progress, rebound) := scheduler.beforeKeepalives engine input
  scheduler.peers.zipIdx.foldl (sendKeepalive input rebound) progress

end EngineScheduler

/-- A scheduler with the engine that it maintains. -/
structure Scheduling (snow : Snow) where
  scheduler : EngineScheduler
  engine : Engine snow

/-- A tick in a situation. -/
structure Ticked (snow : Snow) where
  before : Scheduling snow
  input : TickInput snow

namespace Ticked

variable {snow : Snow}

def progress (ticked : Ticked snow) : TickProgress snow :=
  ticked.before.scheduler.tick ticked.before.engine ticked.input

def now (ticked : Ticked snow) : Instant :=
  ticked.input.now

/-- What the tick returns. -/
def result (ticked : Ticked snow) : SchedulerTick snow :=
  ticked.progress.tick

def after (ticked : Ticked snow) : Scheduling snow where
  scheduler := ticked.progress.scheduler
  engine := ticked.progress.engine

end Ticked

/-- A tick, or a call that others make of the engine. -/
inductive SchedulingEvent (snow : Snow) where
  | tick (ticked : Ticked snow)
  | call (before : Engine snow) (call : EngineCall snow)

/-- Ticks and calls of the engine, in any order. -/
inductive SchedulingStep {snow : Snow} :
    Scheduling snow → SchedulingEvent snow → Scheduling snow → Prop where
  | tick (ticked : Ticked snow) :
      SchedulingStep ticked.before (.tick ticked) ticked.after
  | call
      {scheduler : EngineScheduler}
      (before : Engine snow)
      (call : EngineCall snow) :
      SchedulingStep ⟨scheduler, before⟩ (.call before call)
        ⟨scheduler, (before.perform call).2⟩

/-- A fresh scheduler for an engine that starts. -/
def Scheduling.start
    {snow : Snow}
    (config : Config)
    (localStatic : Key)
    (router : Router) :
    Scheduling snow where
  scheduler := .new config
  engine := .withRouter localStatic router

end HushWire
