import HushWire.ProviderLifecycle

namespace HushWire.PacketTunnel

/-!
# A running provider has its core

As long as every report that first settings are in force arrives while the
runtime that they were passed for is still the core, a running provider has
the core and the configuration of the session that was activated.  A report
that arrives after a teardown makes the provider run without a core.
-/

open Noise

section Runs

variable {device : Device} {snow : Snow}

/--
A report that first settings are in force comes while their runtime is the
core, or while the provider runs anyway.
-/
def Occurrence.IsTimely
    (before : System device snow)
    (occurrence : Occurrence device snow) :
    Prop :=
  ∀ call completionHandler handshakeAlreadyStarted,
    occurrence.job = .settingsInstalled call none →
    call.callback =
      .activation completionHandler handshakeAlreadyStarted →
    before.provider.running = true ∨
      ∃ core,
        before.provider.core = some core ∧ call.runtime = some core.id

namespace System

/-- A step whose report about first settings, if it is one, is timely. -/
def TimelyStep
    (before : System device snow)
    (occurrence : Occurrence device snow)
    (after : System device snow) :
    Prop :=
  Step before occurrence after ∧ occurrence.IsTimely before

/-- A running provider has the core and the configuration of its session. -/
def RunsSession
    (system : System device snow)
    (occurrences : List (Occurrence device snow)) :
    Prop :=
  system.provider.running = true →
    ∃ core configuration,
      system.provider.core = some core ∧
        system.provider.activeConfiguration = some configuration ∧
        core.MadeFrom device configuration ∧
        Activated occurrences core.id

/-- What holds throughout a run of timely steps. -/
structure Sound
    (occurrences : List (Occurrence device snow))
    (system : System device snow) :
    Prop where
  coherent : system.provider.Coherent
  started :
    system.provider.awaitingConfiguration = true ∨
        system.provider.core.isSome →
      Started occurrences system.provider.networkPolicy
  activated :
    system.provider.running = true →
      ∃ core,
        system.provider.core = some core ∧ Activated occurrences core.id

namespace Step

variable
  {before after : System device snow}
  {occurrence : Occurrence device snow}

/-- After a teardown nothing runs. -/
theorem notRunning_of_tearsDown
    (step : Step before occurrence after)
    (tears : occurrence.TearsDown) :
    after.provider.running = false := by
  obtain ⟨middle, isTornDown⟩ := step.performs.eq_tornDown tears
  simp only at isTornDown
  rw [isTornDown]
  rfl

/-- A running provider that only goes on with its session keeps its core. -/
theorem running_core
    (step : Step before occurrence after)
    (keeps : ¬ occurrence.TearsDown)
    (notActivation :
      ∀ call completionHandler handshakeAlreadyStarted,
        occurrence.job = .settingsInstalled call none →
        call.callback ≠
          .activation completionHandler handshakeAlreadyStarted)
    (running : after.provider.running = true) :
    before.provider.running = true ∧
      Option.Rel CoreRuntime.Same before.provider.core
        after.provider.core := by
  obtain ⟨steps, execution⟩ :=
    step.performs.execution_of_no_tearDown keeps
  refine
    execution.preserves
      (fun provider : Provider device snow =>
        provider.running = true →
          before.provider.running = true ∧
            Option.Rel CoreRuntime.Same before.provider.core
              provider.core)
      (fun wasRunning => ⟨wasRunning, .refl CoreRuntime.Same.refl _⟩)
      ?_ running
  intro middle effects next _ holds does isRunning
  rcases does.running_cases isRunning with
    wasRunning |
    ⟨call, completionHandler, handshakeAlreadyStarted, isJob,
      isActivation⟩
  · obtain ⟨atStart, sameCore⟩ := holds wasRunning
    refine ⟨atStart, ?_⟩
    rcases does.session_cases with same | isInstalled
    · exact sameCore.trans (fun first later => first.trans later) same.core
    · rw [isInstalled.notRunning] at isRunning
      cases isRunning
  · exact absurd isActivation
      (notActivation call completionHandler handshakeAlreadyStarted isJob)

/-- A job that finds a core and tears nothing down keeps it. -/
theorem core_same
    (step : Step before occurrence after)
    (keeps : ¬ occurrence.TearsDown)
    {core : CoreRuntime snow}
    (isCore : before.provider.core = some core) :
    ∃ later, after.provider.core = some later ∧ core.Same later := by
  obtain ⟨steps, execution⟩ :=
    step.performs.execution_of_no_tearDown keeps
  refine
    execution.preserves
      (fun provider : Provider device snow =>
        ∃ later, provider.core = some later ∧ core.Same later)
      ⟨core, isCore, .refl core⟩ ?_
  rintro middle effects next _ ⟨later, isLater, same⟩ does
  rcases does.session_cases with session | isInstalled
  · obtain ⟨further, isFurther, sameFurther⟩ :=
      (isLater ▸ session.core).of_some_left
    exact ⟨further, isFurther, same.trans sameFurther⟩
  · rw [isInstalled.noCore] at isLater
    cases isLater

end Step

namespace Sound

variable
  {occurrences : List (Occurrence device snow)}
  {before after : System device snow}
  {occurrence : Occurrence device snow}

theorem initial :
    Sound [] (initial : System device snow) where
  coherent := .tornDown .idle
  started := fun isStarted =>
    isStarted.elim (fun awaits => nomatch awaits) fun hasCore => nomatch hasCore
  activated := fun running => nomatch running

/-- A session goes on running until it is torn down. -/
theorem activated_of_other
    (sound : Sound occurrences before)
    (step : Step before occurrence after)
    (notActivation :
      ∀ call completionHandler handshakeAlreadyStarted,
        occurrence.job = .settingsInstalled call none →
        call.callback ≠
          .activation completionHandler handshakeAlreadyStarted)
    (running : after.provider.running = true) :
    ∃ core,
      after.provider.core = some core ∧
        Activated (occurrences ++ [occurrence]) core.id := by
  by_cases tears : occurrence.TearsDown
  · exact nomatch running.symm.trans (step.notRunning_of_tearsDown tears)
  · obtain ⟨wasRunning, sameCore⟩ :=
      step.running_core tears notActivation running
    obtain ⟨core, isCore, isActivated⟩ := sound.activated wasRunning
    obtain ⟨later, isLater, same⟩ := (isCore ▸ sameCore).of_some_left
    exact ⟨later, isLater, same.id ▸ isActivated.snoc tears⟩

/-- A timely report leaves a running provider with its core. -/
theorem activated_of_activation
    (run : Execution Step System.initial occurrences before)
    (sound : Sound occurrences before)
    (step : Step before occurrence after)
    (timely : occurrence.IsTimely before)
    {call : SettingsCall}
    {completionHandler : Option Completion}
    {handshakeAlreadyStarted : Bool}
    (isJob : occurrence.job = .settingsInstalled call none)
    (isActivation :
      call.callback =
        .activation completionHandler handshakeAlreadyStarted)
    (running : after.provider.running = true) :
    ∃ core,
      after.provider.core = some core ∧
        Activated (occurrences ++ [occurrence]) core.id := by
  have keeps : ¬ occurrence.TearsDown := fun tears =>
    nomatch running.symm.trans (step.notRunning_of_tearsDown tears)
  rcases timely call completionHandler handshakeAlreadyStarted isJob
      isActivation with
    wasRunning | ⟨core, isCore, sameRuntime⟩
  · obtain ⟨core, isCore, isActivated⟩ := sound.activated wasRunning
    obtain ⟨later, isLater, same⟩ := step.core_same keeps isCore
    exact ⟨later, isLater, same.id ▸ isActivated.snoc keeps⟩
  · have isStarted := sound.started (.inr (by rw [isCore]; rfl))
    obtain ⟨later, isLater, same⟩ := step.core_same keeps isCore
    refine ⟨later, isLater, .last run step ⟨?_, _, isStarted⟩⟩
    rw [same.id]
    exact ⟨call, completionHandler, handshakeAlreadyStarted, isJob,
      isActivation, sameRuntime, keeps⟩

/-- Timely steps keep what holds. -/
theorem step
    (run : Execution Step System.initial occurrences before)
    (sound : Sound occurrences before)
    (taken : TimelyStep before occurrence after) :
    Sound (occurrences ++ [occurrence]) after where
  coherent := taken.1.performs.coherent sound.coherent
  started := taken.1.started run sound.started
  activated := by
    intro running
    by_cases isActivation :
        ∃ call completionHandler handshakeAlreadyStarted,
          occurrence.job = .settingsInstalled call none ∧
            call.callback =
              .activation completionHandler handshakeAlreadyStarted
    · obtain ⟨call, completionHandler, handshakeAlreadyStarted, isJob,
        isCallback⟩ := isActivation
      exact activated_of_activation run sound taken.1 taken.2 isJob
        isCallback running
    · refine sound.activated_of_other taken.1 ?_ running
      intro call completionHandler handshakeAlreadyStarted isJob isCallback
      exact isActivation
        ⟨call, completionHandler, handshakeAlreadyStarted, isJob, isCallback⟩

/-- Every run of timely steps is sound. -/
theorem of_execution
    {system : System device snow}
    (run : Execution TimelyStep System.initial occurrences system) :
    Sound occurrences system := by
  induction run with
  | nil => exact initial
  | snoc earlier taken inductionHypothesis =>
      exact inductionHypothesis.step (earlier.mono And.left) taken

/-- A running provider runs the session of its core. -/
theorem runsSession
    {system : System device snow}
    (sound : Sound occurrences system) :
    system.RunsSession occurrences := by
  intro running
  obtain ⟨core, isCore, isActivated⟩ := sound.activated running
  obtain ⟨configuration, isActive, made⟩ :=
    sound.coherent.configured core isCore
  exact ⟨core, configuration, isCore, isActive, made, isActivated⟩

end Sound

/-- A start and an activation do not tear down, so they are found later. -/
theorem Activated.after_tearDown
    {before after : List (Occurrence device snow)}
    {tearDown : Occurrence device snow}
    {runtime : Nat}
    (isActivated : Activated (before ++ tearDown :: after) runtime)
    (tears : tearDown.TearsDown) :
    ∃ first start policy middle activation last,
      after = first ++ start :: middle ++ activation :: last ∧
        start.StartsWith policy ∧
        activation.Activates runtime := by
  obtain ⟨earlier, _, activation, _, last, isAfter, _, _,
    ⟨call, completionHandler, handshakeAlreadyStarted, isJob, isActivation,
      sameRuntime, keeps⟩, policy, isStarted⟩ :=
    isActivated.of_append (not_not.mpr tears)
      fun _ _ _ marked =>
        marked.1.elim fun _ ⟨_, _, _, _, _, keeps⟩ => keeps tears
  obtain ⟨first, _, start, _, middle, isEarlier, _, _, starts⟩ :=
    isStarted.of_append (fun continues => continues.1 tears)
      fun _ _ _ starts =>
        starts.elim fun _ ⟨_, _, _, _, _, keeps⟩ => keeps tears
  exact ⟨first, start, policy, middle, activation, last,
    by rw [isAfter, isEarlier], starts, call, completionHandler,
    handshakeAlreadyStarted, isJob, isActivation, sameRuntime, keeps⟩

end System

end Runs

/--
In every run whose reports are timely, a running provider has the core and the
configuration of the session that was activated, and one that was torn down
runs only after another start and an activation of its own.
-/
theorem running_core_of_timely
    {device : Device}
    {snow : Snow}
    {occurrences : List (Occurrence device snow)}
    {system : System device snow}
    (run : Execution System.TimelyStep .initial occurrences system) :
    system.RunsSession occurrences ∧
      ∀ before tearDown after,
        occurrences = before ++ tearDown :: after →
        tearDown.TearsDown →
        system.provider.running = true →
        ∃ core first start policy middle activation last,
          system.provider.core = some core ∧
            after = first ++ start :: middle ++ activation :: last ∧
            start.StartsWith policy ∧
            activation.Activates core.id := by
  have isSession := (System.Sound.of_execution run).runsSession
  refine ⟨isSession, ?_⟩
  rintro before tearDown after rfl tears running
  obtain ⟨core, _, isCore, _, _, isActivated⟩ := isSession running
  obtain ⟨first, start, policy, middle, activation, last, found⟩ :=
    isActivated.after_tearDown tears
  exact ⟨core, first, start, policy, middle, activation, last, isCore, found⟩

namespace ProviderExample

/-- A peer whose endpoint is a name. -/
def peer (net : Ipv4Net) : PeerConfig where
  __ := RouteExample.exit
  endpoint := { host := "vpn.example", port := 11063, literal := none }
  allowedIps := [net]

/-- One byte is a configuration of one host, another one of every host. -/
def parseToml : Bytes → Except String Config
  | [0x68] => .ok { RouteExample.config with peer := [peer ⟨0x0a4d0002, 32⟩] }
  | [0x66] => .ok { RouteExample.config with peer := [peer ⟨0x00000000, 0⟩] }
  | _ => .error "expected a value"

def device : Device where
  foundation := PlainFoundation.foundation
  ids := SavedProfileExample.ids
  platform := .macOS
  decodeBase64 := RouteExample.decodeBase64
  parseToml := parseToml

/-- The name stands for one address at a time. -/
def moment
    (address : Ipv4Addr)
    (id : UInt8)
    (now : Instant) :
    Moment device PlainNoise.snow where
  draws := fun _ => ⟨.fill id, id⟩
  now
  clock := now
  toSocketAddrs := fun _ port => .ok [⟨.v4 address, port⟩]
  load := fun _ => .error "no such item"

/-- The provider is started with the settings that are saved for a policy. -/
def start (routePolicy : RoutePolicy) : Job PlainNoise.snow :=
  .startTunnel
    (some (.ofSettings [("fullTunnelApproved", .boolean true)]))
    (some
      (.ofSettings
        [("schemaVersion", .number 4),
          ("configurationStorage", .string "app-group-v1"),
          ("routePolicy", .string routePolicy.rawValue)]))

/-- The app delivers a configuration. -/
def deliver (configuration : UInt8) : Job PlainNoise.snow :=
  .handleAppMessage [0x02, configuration] none

/-- The settings of the host, which need no preflight. -/
def call (runtime : Nat) : SettingsCall where
  settings :=
    { tunnelRemoteAddress := "192.0.2.10"
      addresses := ["10.77.0.1"]
      subnetMasks := ["255.255.255.255"]
      includedRoutes := [⟨"10.77.0.2", 32⟩]
      excludedRoutes := []
      dnsServers := []
      mtu := 1280 }
  callback := .activation none false
  runtime := some runtime

/-- The system reports that they are in force. -/
def report (runtime : Nat) : Job PlainNoise.snow :=
  .settingsInstalled (call runtime) none

/-- The system after a job, at the one moment of the run. -/
def next
    (system : System device PlainNoise.snow)
    (job : Job PlainNoise.snow) :
    System device PlainNoise.snow :=
  (system.next (moment 0xc000020a 1 0) job).1

def occurrence
    (system : System device PlainNoise.snow)
    (job : Job PlainNoise.snow) :
    Occurrence device PlainNoise.snow :=
  ⟨job, moment 0xc000020a 1 0, (system.next (moment 0xc000020a 1 0) job).2⟩

def started : System device PlainNoise.snow :=
  next .initial (start .hostRoutesOnly)

def delivered : System device PlainNoise.snow :=
  next started (deliver 0x68)

def stopped : System device PlainNoise.snow :=
  next delivered .stopTunnel

def stoppedRun : List (Occurrence device PlainNoise.snow) :=
  [occurrence .initial (start .hostRoutesOnly),
    occurrence started (deliver 0x68), occurrence delivered .stopTunnel]

/-- The report of the session that was stopped comes late. -/
def revived : System device PlainNoise.snow :=
  next stopped (report 0)

def startedAgain : System device PlainNoise.snow :=
  next stopped (start .hostRoutesOnly)

def deliveredAgain : System device PlainNoise.snow :=
  next startedAgain (deliver 0x68)

def restarted : System device PlainNoise.snow :=
  next deliveredAgain (report 1)

def restartedRun : List (Occurrence device PlainNoise.snow) :=
  stoppedRun ++
    [occurrence stopped (start .hostRoutesOnly),
      occurrence startedAgain (deliver 0x68),
      occurrence deliveredAgain (report 1)]

theorem timelyStep
    (system : System device PlainNoise.snow)
    (job : Job PlainNoise.snow)
    (enabled : system.Enabled job)
    (isOther : ∀ call, job ≠ .settingsInstalled call none) :
    System.TimelyStep system (occurrence system job) (next system job) :=
  ⟨.of_next enabled, fun call _ _ isJob _ => absurd isJob (isOther call)⟩

theorem stopped_execution :
    Execution System.TimelyStep .initial stoppedRun stopped :=
  .snoc
    (.snoc
      (.single
        (timelyStep .initial (start .hostRoutesOnly) trivial
          fun _ isJob => nomatch isJob))
      (timelyStep started (deliver 0x68) trivial
        fun _ isJob => nomatch isJob))
    (timelyStep delivered .stopTunnel trivial fun _ isJob => nomatch isJob)

theorem report_timely :
    System.TimelyStep deliveredAgain (occurrence deliveredAgain (report 1))
      restarted := by
  refine ⟨.of_next (by decide +kernel), ?_⟩
  rintro other completionHandler handshakeAlreadyStarted ⟨⟩ _
  have isCore :
      (deliveredAgain.provider.core.map CoreRuntime.id) = some 1 := by
    decide +kernel
  obtain ⟨core, found, identity⟩ := Option.map_eq_some_iff.mp isCore
  exact .inr ⟨core, found, congrArg some identity.symm⟩

theorem restarted_execution :
    Execution System.TimelyStep .initial restartedRun restarted :=
  stopped_execution.append
    (.snoc
      (.snoc
        (.single
          (timelyStep stopped (start .hostRoutesOnly) trivial
            fun _ isJob => nomatch isJob))
        (timelyStep startedAgain (deliver 0x68) trivial
          fun _ isJob => nomatch isJob))
      report_timely)

end ProviderExample

/-- A session that is started after another one was stopped. -/
theorem running_core_of_timely_example :
    ProviderExample.restarted.provider.running = true ∧
      ProviderExample.restarted.RunsSession ProviderExample.restartedRun ∧
      ∀ before tearDown after,
        ProviderExample.restartedRun = before ++ tearDown :: after →
        tearDown.TearsDown →
        ProviderExample.restarted.provider.running = true →
        ∃ core first start policy middle activation last,
          ProviderExample.restarted.provider.core = some core ∧
            after = first ++ start :: middle ++ activation :: last ∧
            start.StartsWith policy ∧
            activation.Activates core.id :=
  ⟨by decide +kernel,
    running_core_of_timely ProviderExample.restarted_execution⟩

/--
The report about a session that was stopped comes late: the provider runs,
without a core and without a configuration.
-/
theorem running_core_of_timely_counterexample :
    Execution System.Step .initial
        (ProviderExample.stoppedRun ++
          [ProviderExample.occurrence ProviderExample.stopped
            (ProviderExample.report 0)])
        ProviderExample.revived ∧
      (ProviderExample.occurrence ProviderExample.delivered
        .stopTunnel).TearsDown ∧
      ProviderExample.revived.provider.running = true ∧
      ProviderExample.revived.provider.core.isNone ∧
      ProviderExample.revived.provider.activeConfiguration = none :=
  ⟨.snoc (ProviderExample.stopped_execution.mono And.left)
      (.of_next (by decide +kernel)),
    by unfold Occurrence.TearsDown; decide +kernel, by decide +kernel,
    by decide +kernel, by decide +kernel⟩

end HushWire.PacketTunnel
