import HushWire.ProviderJobs

namespace HushWire.PacketTunnel

/-!
# Sessions of the provider

A session begins with an accepted start, gets its core when a configuration is
installed, runs once its first settings are in force, and ends with a
teardown.  `System.Session` is what holds of the provider's state throughout.

The callback of the first settings does not look whether the core is still the
one that the settings were passed for.
-/

open Noise

variable {device : Device} {snow : Snow}

/-- The runtime was created from the configuration at some time. -/
def CoreRuntime.MadeFrom
    (device : Device)
    (core : CoreRuntime snow)
    (configuration : Bytes) :
    Prop :=
  ∃ toSocketAddrs localStatic,
    createRuntime device toSocketAddrs configuration =
      .ok (core.config, core.router, localStatic)

/-- The same object, whatever its engine did. -/
structure CoreRuntime.Same (before after : CoreRuntime snow) : Prop where
  id : after.id = before.id
  config : after.config = before.config
  router : after.router = before.router

namespace CoreRuntime.Same

theorem refl (core : CoreRuntime snow) : core.Same core where
  id := rfl
  config := rfl
  router := rfl

theorem trans
    {before middle after : CoreRuntime snow}
    (first : before.Same middle)
    (later : middle.Same after) :
    before.Same after where
  id := later.id.trans first.id
  config := later.config.trans first.config
  router := later.router.trans first.router

end CoreRuntime.Same

theorem CoreRuntime.Continues.same
    {before after : CoreRuntime snow}
    (continues : before.Continues after) :
    before.Same after :=
  ⟨continues.id, continues.config, continues.router⟩

theorem CoreRuntime.Hears.same
    {before after : CoreRuntime snow}
    {heard : PeerName → Prop}
    (hears : before.Hears heard after) :
    before.Same after :=
  ⟨hears.id, hears.config, hears.router⟩

namespace Provider

/-- A step within a session, or outside of any. -/
structure SameSession (before after : Provider device snow) : Prop where
  core : Option.Rel CoreRuntime.Same before.core after.core
  runtimes : after.runtimes = before.runtimes
  activeConfiguration :
    after.activeConfiguration = before.activeConfiguration
  interfaceMetadata : after.interfaceMetadata = before.interfaceMetadata
  peerNames : after.peerNames = before.peerNames

/-- A step in which a configuration is installed. -/
structure Installs (before after : Provider device snow) : Prop where
  awaiting : before.awaitingConfiguration = true
  noCore : before.core = none
  notRunning : after.running = false
  runtimes : after.runtimes = before.runtimes + 1
  networkPolicy : after.networkPolicy = before.networkPolicy
  installed :
    ∃ core configuration,
      after.core = some core ∧
        core.id = before.runtimes ∧
        core.MadeFrom device configuration ∧
        after.activeConfiguration = some configuration ∧
        after.interfaceMetadata = some core.interfaceMetadata ∧
        after.peerNames =
          device.foundation.sortedSet
            (core.routes.map RouteMetadata.peerName)

namespace GoesOn

variable {before after : Provider device snow}

theorem core_of_some
    (goesOn : before.GoesOn after)
    {core : CoreRuntime snow}
    (isCore : before.core = some core) :
    ∃ later, after.core = some later ∧ core.Continues later :=
  (isCore ▸ goesOn.core).of_some_left

/-- The core that goes on is the one that was there. -/
theorem same_of_some
    (goesOn : before.GoesOn after)
    {core : CoreRuntime snow}
    (isCore : before.core = some core) :
    ∃ later, after.core = some later ∧ core.Same later := by
  obtain ⟨later, isLater, continues⟩ := goesOn.core_of_some isCore
  exact ⟨later, isLater, continues.same⟩

theorem sameSession (goesOn : before.GoesOn after) :
    before.SameSession after where
  core := goesOn.core.mono fun continues => continues.same
  runtimes := goesOn.runtimes
  activeConfiguration := goesOn.activeConfiguration
  interfaceMetadata := goesOn.interfaceMetadata
  peerNames := goesOn.peerNames

end GoesOn

/-- What was loaded is a runtime that has not been used. -/
theorem loadConfiguration_ok
    {provider : Provider device snow}
    {moment : Moment device snow}
    {configuration : Bytes}
    {core : CoreRuntime snow}
    {configurationPlan : ConfigurationPlan}
    (loaded :
      provider.loadConfiguration moment configuration =
        .ok (core, configurationPlan)) :
    provider.awaitingConfiguration = true ∧
      provider.running = false ∧
      provider.core = none ∧
      core.MadeFrom device configuration ∧
      (∃ localStatic,
        core = .start provider.runtimes core.config core.router
          localStatic) ∧
      plan device.foundation core.interfaceMetadata core.routes
          provider.networkPolicy =
        .ok configurationPlan := by
  simp only [loadConfiguration, Checked.bind_eq_ok, Checked.ensure_eq_ok,
    exists_const, Option.isNone_iff_eq_none] at loaded
  obtain ⟨⟨awaits, notRunning, noCore⟩, _, ⟨config, router, localStatic⟩,
    created, plan', planned, isLoaded⟩ := loaded
  cases isLoaded
  refine ⟨awaits, notRunning, noCore,
    ⟨moment.toSocketAddrs, localStatic, ?_⟩, ⟨localStatic, rfl⟩, ?_⟩
  · cases creates :
        createRuntime device moment.toSocketAddrs configuration with
    | error error =>
        rw [creates] at created
        cases created
    | ok parts =>
        rw [creates] at created
        exact congrArg _ (Except.ok.inj created)
  · cases plans :
        plan device.foundation
          (CoreRuntime.start provider.runtimes config router localStatic :
            CoreRuntime snow).interfaceMetadata
          (CoreRuntime.start provider.runtimes config router localStatic :
            CoreRuntime snow).routes
          provider.networkPolicy with
    | error error =>
        rw [plans] at planned
        cases planned
    | ok plan =>
        rw [plans] at planned
        exact congrArg _ (Except.ok.inj planned)

/-- Installing is followed by what the session goes on with. -/
theorem Installs.of_loaded
    {before after : Provider device snow}
    {moment : Moment device snow}
    {configuration : Bytes}
    {core : CoreRuntime snow}
    {configurationPlan : ConfigurationPlan}
    (pending : Option PendingProtectedActivation)
    (due : Bool)
    (loaded :
      before.loadConfiguration moment configuration =
        .ok (core, configurationPlan))
    (goesOn :
      GoesOn
        { before.install configuration core with
          pendingProtectedActivation := pending
          protectedHandshakeTimeout := due }
        after) :
    before.Installs after := by
  obtain ⟨awaits, notRunning, noCore, ⟨toSocketAddrs, localStatic, created⟩,
    ⟨_, isStart⟩, _⟩ := loadConfiguration_ok loaded
  obtain ⟨later, isLater, continues⟩ := goesOn.core_of_some rfl
  refine
    { awaiting := awaits
      noCore
      notRunning := goesOn.running.trans notRunning
      runtimes := goesOn.runtimes
      networkPolicy := goesOn.networkPolicy
      installed :=
        ⟨later, configuration, isLater, ?_,
          ⟨toSocketAddrs, localStatic, ?_⟩, goesOn.activeConfiguration,
          ?_, ?_⟩ }
  · rw [continues.id, isStart]
    rfl
  · rw [continues.config, continues.router, created]
  · rw [goesOn.interfaceMetadata, CoreRuntime.interfaceMetadata,
      continues.config]
    rfl
  · rw [goesOn.peerNames, CoreRuntime.routes, continues.router]
    rfl

theorem updatePeerEndpoint_same
    {core core' : CoreRuntime snow}
    {peerName : String}
    {endpoint : Endpoint}
    {changed : Option Bool}
    (updated :
      core.updatePeerEndpoint peerName endpoint = (changed, core')) :
    core.Same core' := by
  unfold CoreRuntime.updatePeerEndpoint at updated
  split at updated
  · cases updated
    exact ⟨rfl, rfl, rfl⟩
  · cases updated
    exact ⟨rfl, rfl, rfl⟩

namespace Does

variable
  {moment : Moment device snow}
  {job : Job snow}
  {before after : Provider device snow}
  {effects : List Effect}

/-- A step stays in its session or installs a configuration. -/
theorem session_cases
    (does : Does moment job before effects after) :
    before.SameSession after ∨ before.Installs after := by
  have refreshed
      {core core' : CoreRuntime snow}
      {peerName : String}
      {endpoint : Endpoint}
      {routes : List RouteMetadata}
      {cleanup : Option PendingEndpointRouteCleanup}
      {after : Provider device snow}
      (isCore : before.core = some core)
      (updated :
        core.updatePeerEndpoint peerName endpoint = (some true, core'))
      (goesOn : (before.refreshed core' routes cleanup).GoesOn after) :
      before.SameSession after := by
    have session := goesOn.sameSession
    refine { session with core := ?_ }
    obtain ⟨later, isLater, continues⟩ := goesOn.core_of_some rfl
    have same := updatePeerEndpoint_same updated
    rw [isCore, isLater]
    exact .some ⟨continues.id.trans same.id,
      continues.config.trans same.config,
      continues.router.trans same.router⟩
  cases does with
  | goesOn goesOn => exact .inl goesOn.sameSession
  | receives _ isCore hears _ =>
      refine .inl { (GoesOn.refl before).sameSession with core := ?_ }
      rw [isCore]
      exact .some hears.same
  | starts _ _ _ _ goesOn => exact .inl { goesOn.sameSession with }
  | installs _ loaded _ goesOn => exact .inr (.of_loaded _ _ loaded goesOn)
  | installsUnprotected _ loaded _ =>
      exact .inr (.of_loaded _ _ loaded (.refl _))
  | releases _ _ _ _ _ goesOn => exact .inl { goesOn.sameSession with }
  | cleansUp => exact .inl { (GoesOn.refl before).sameSession with }
  | runs _ _ goesOn _ => exact .inl { goesOn.sameSession with }
  | resolves _ _ _ goesOn => exact .inl goesOn.sameSession
  | transitions _ _ _ _ _ _ _ _ goesOn => exact .inl goesOn.sameSession
  | refreshes _ _ isCore _ updated goesOn _ =>
      exact .inl (refreshed isCore updated goesOn)
  | refreshesUnprotected isCore _ updated goesOn _ =>
      exact .inl (refreshed isCore updated goesOn)

/-- Only the callback of first settings makes the provider run. -/
theorem running_cases
    (does : Does moment job before effects after)
    (running : after.running = true) :
    before.running = true ∨
      ∃ call completionHandler handshakeAlreadyStarted,
        job = .settingsInstalled call none ∧
          call.callback =
            .activation completionHandler handshakeAlreadyStarted := by
  cases does with
  | goesOn goesOn => exact .inl (goesOn.running ▸ running)
  | receives => exact .inl running
  | starts _ _ _ _ goesOn => exact .inl (goesOn.running ▸ running)
  | installs _ _ _ goesOn => exact .inl (goesOn.running ▸ running)
  | installsUnprotected => exact .inl running
  | releases _ _ _ _ _ goesOn => exact .inl (goesOn.running ▸ running)
  | cleansUp => exact .inl running
  | runs isJob isActivation => exact .inr ⟨_, _, _, isJob, isActivation⟩
  | resolves _ _ _ goesOn => exact .inl (goesOn.running ▸ running)
  | transitions _ _ _ _ _ _ _ _ goesOn =>
      exact .inl (goesOn.running ▸ running)
  | refreshes _ _ _ _ _ goesOn _ => exact .inl (goesOn.running ▸ running)
  | refreshesUnprotected _ _ _ goesOn _ =>
      exact .inl (goesOn.running ▸ running)

/-- A teardown is not one of the steps. -/
theorem no_tearDown
    (does : Does moment job before effects after) :
    .tearDown ∉ effects := by
  have quiet
      {effects : List Effect}
      (allQuiet : ∀ effect ∈ effects, effect.IsQuiet) :
      .tearDown ∉ effects :=
    fun member => allQuiet .tearDown member
  cases does with
  | goesOn _ allQuiet => exact quiet allQuiet
  | receives _ _ _ onlyHandshakes =>
      intro member
      rcases onlyHandshakes .tearDown member with isQuiet | ⟨_, _, isOther, _⟩
      · exact isQuiet
      · cases isOther
  | installs _ _ _ _ allQuiet => exact quiet allQuiet
  | runs _ _ _ allQuiet => exact quiet allQuiet
  | refreshes _ _ _ _ _ _ allQuiet => exact quiet allQuiet
  | refreshesUnprotected _ _ _ _ allQuiet => exact quiet allQuiet
  | _ => simp

/-- Awaiting a configuration and having one begin with a start. -/
theorem started_cases
    (does : Does moment job before effects after)
    (started : after.awaitingConfiguration = true ∨ after.core.isSome) :
    (before.awaitingConfiguration = true ∨ before.core.isSome) ∧
        after.networkPolicy = before.networkPolicy ∨
      ∃ options protocolConfiguration decision,
        job = .startTunnel options protocolConfiguration ∧
          validateStart device.foundation device.ids moment.load
              device.platform options protocolConfiguration =
            .ok decision ∧
          after.networkPolicy = decision.networkPolicy ∧
          effects = [.completeStart none] := by
  have went
      {middle after : Provider device snow}
      (goesOn : middle.GoesOn after)
      (sameAwaiting :
        middle.awaitingConfiguration = true →
          before.awaitingConfiguration = true)
      (sameCore : middle.core.isSome = before.core.isSome)
      (samePolicy : middle.networkPolicy = before.networkPolicy)
      (started :
        after.awaitingConfiguration = true ∨ after.core.isSome) :
      (before.awaitingConfiguration = true ∨ before.core.isSome) ∧
        after.networkPolicy = before.networkPolicy := by
    rw [goesOn.awaitingConfiguration, goesOn.core.isSome_eq,
      sameCore] at started
    exact ⟨started.imp_left sameAwaiting,
      goesOn.networkPolicy.trans samePolicy⟩
  cases does with
  | goesOn goesOn => exact .inl (went goesOn id rfl rfl started)
  | receives _ isCore _ _ => exact .inl ⟨.inr (by rw [isCore]; rfl), rfl⟩
  | starts isJob _ _ accepted goesOn =>
      exact .inr ⟨_, _, _, isJob, accepted, goesOn.networkPolicy, rfl⟩
  | installs _ loaded _ goesOn =>
      exact .inl
        ⟨.inl (loadConfiguration_ok loaded).1, goesOn.networkPolicy⟩
  | installsUnprotected _ loaded _ =>
      exact .inl ⟨.inl (loadConfiguration_ok loaded).1, rfl⟩
  | releases _ _ _ _ _ goesOn =>
      exact .inl (went goesOn id rfl rfl started)
  | cleansUp => exact .inl ⟨started, rfl⟩
  | runs _ _ goesOn _ =>
      exact .inl (went goesOn (fun awaits => nomatch awaits) rfl rfl started)
  | resolves _ _ _ goesOn => exact .inl (went goesOn id rfl rfl started)
  | transitions _ _ _ _ _ _ _ _ goesOn =>
      exact .inl (went goesOn id rfl rfl started)
  | refreshes _ _ isCore _ _ goesOn _ =>
      exact .inl (went goesOn id (by rw [isCore]; rfl) rfl started)
  | refreshesUnprotected isCore _ _ goesOn _ =>
      exact .inl (went goesOn id (by rw [isCore]; rfl) rfl started)

end Does

/-- What holds of a session's state, and of the state outside of any. -/
structure Coherent (provider : Provider device snow) : Prop where
  idle :
    provider.core = none →
      provider.activeConfiguration = none
  identity :
    ∀ core, provider.core = some core → core.id < provider.runtimes
  interfaceMetadata :
    ∀ core, provider.core = some core →
      provider.interfaceMetadata = some core.interfaceMetadata
  peerNames :
    ∀ core, provider.core = some core →
      provider.peerNames =
        device.foundation.sortedSet
          (core.routes.map RouteMetadata.peerName)
  configured :
    ∀ core, provider.core = some core →
      ∃ configuration,
        provider.activeConfiguration = some configuration ∧
          core.MadeFrom device configuration

namespace Coherent

theorem tornDown (provider : Provider device snow) :
    provider.tornDown.Coherent where
  idle := fun _ => rfl
  identity := fun _ isCore => nomatch isCore
  interfaceMetadata := fun _ isCore => nomatch isCore
  peerNames := fun _ isCore => nomatch isCore
  configured := fun _ isCore => nomatch isCore

theorem sameSession
    {before after : Provider device snow}
    (coherent : before.Coherent)
    (same : before.SameSession after) :
    after.Coherent := by
  have earlier
      {core : CoreRuntime snow}
      (isCore : after.core = some core) :
      ∃ old, before.core = some old ∧ old.Same core :=
    (isCore ▸ same.core).of_some_right
  refine
    { idle := fun noCore => ?_
      identity := fun core isCore => ?_
      interfaceMetadata := fun core isCore => ?_
      peerNames := fun core isCore => ?_
      configured := fun core isCore => ?_ }
  · have isSome := same.core.isSome_eq
    rw [noCore, Option.isSome_none, eq_comm, Option.isSome_eq_false_iff,
      Option.isNone_iff_eq_none] at isSome
    exact same.activeConfiguration.trans (coherent.idle isSome)
  · obtain ⟨old, isOld, sameCore⟩ := earlier isCore
    rw [sameCore.id, same.runtimes]
    exact coherent.identity old isOld
  · obtain ⟨old, isOld, sameCore⟩ := earlier isCore
    rw [same.interfaceMetadata, coherent.interfaceMetadata old isOld,
      CoreRuntime.interfaceMetadata, CoreRuntime.interfaceMetadata,
      sameCore.config]
  · obtain ⟨old, isOld, sameCore⟩ := earlier isCore
    rw [same.peerNames, coherent.peerNames old isOld, CoreRuntime.routes,
      CoreRuntime.routes, sameCore.router]
  · obtain ⟨old, isOld, sameCore⟩ := earlier isCore
    obtain ⟨configuration, isActive, toSocketAddrs, localStatic, created⟩ :=
      coherent.configured old isOld
    refine ⟨configuration, same.activeConfiguration.trans isActive,
      toSocketAddrs, localStatic, ?_⟩
    rw [sameCore.config, sameCore.router, created]

theorem installs
    {before after : Provider device snow}
    (isInstalled : before.Installs after) :
    after.Coherent := by
  obtain ⟨core, configuration, isCore, identity, made, isActive,
    interfaceMetadata, peerNames⟩ := isInstalled.installed
  have only
      {other : CoreRuntime snow}
      (isOther : after.core = some other) :
      core = other :=
    Option.some.inj (isCore.symm.trans isOther)
  refine
    { idle := fun noCore => nomatch isCore.symm.trans noCore
      identity := fun other isOther => ?_
      interfaceMetadata := fun other isOther => ?_
      peerNames := fun other isOther => ?_
      configured := fun other isOther => ?_ }
  all_goals cases only isOther
  · rw [identity, isInstalled.runtimes]
    exact Nat.lt_succ_self _
  · exact interfaceMetadata
  · exact peerNames
  · exact ⟨configuration, isActive, made⟩

end Coherent

namespace Performs

variable
  {moment : Moment device snow}
  {job : Job snow}
  {before : Provider device snow}
  {outcome : Provider device snow × List Effect}

/-- What every step and a teardown keep, a job keeps. -/
theorem preserved
    (performs : Performs moment job before outcome)
    (holds : Provider device snow → Prop)
    (atStart : holds before)
    (kept :
      ∀ {middle effects after},
        holds middle → Does moment job middle effects after → holds after)
    (tornDown :
      ∀ middle : Provider device snow,
        holds middle → holds middle.tornDown) :
    holds outcome.1 := by
  obtain ⟨steps, middle, execution, isOutcome⟩ := performs
  have holdsLast : holds middle :=
    execution.preserves holds atStart fun _ holdsBefore does =>
      kept holdsBefore does
  rcases isOutcome with rfl | ⟨effects, _, _, rfl⟩
  · exact holdsLast
  · exact tornDown middle holdsLast

/-- What every step keeps, and a teardown brings about, a job keeps. -/
theorem invariant
    (performs : Performs moment job before outcome)
    (holds : Provider device snow → Prop)
    (atStart : holds before)
    (kept :
      ∀ {middle effects after},
        holds middle → Does moment job middle effects after → holds after)
    (tornDown : ∀ middle : Provider device snow, holds middle.tornDown) :
    holds outcome.1 :=
  performs.preserved holds atStart kept fun middle _ => tornDown middle

theorem coherent
    (performs : Performs moment job before outcome)
    (atStart : before.Coherent) :
    outcome.1.Coherent :=
  performs.invariant Coherent atStart
    (fun holds does =>
      does.session_cases.elim holds.sameSession Coherent.installs)
    Coherent.tornDown

/-- A job without a teardown takes steps, and its effects are theirs. -/
theorem keeps_of_no_tearDown
    (performs : Performs moment job before outcome)
    (keeps : .tearDown ∉ outcome.2) :
    Keeps moment job before outcome := by
  obtain ⟨steps, middle, execution, rfl | ⟨effects, ends, _, rfl⟩⟩ := performs
  · exact ⟨steps, execution, rfl⟩
  · exact absurd (List.mem_append_right _ ends.tearDown) keeps

theorem execution_of_no_tearDown
    (performs : Performs moment job before outcome)
    (keeps : .tearDown ∉ outcome.2) :
    ∃ steps, Execution (Does moment job) before steps outcome.1 := by
  obtain ⟨steps, execution, _⟩ := performs.keeps_of_no_tearDown keeps
  exact ⟨steps, execution⟩

/-- A job with a teardown takes its steps first, and passes no settings. -/
theorem execution_of_tearDown
    (performs : Performs moment job before outcome)
    (tears : .tearDown ∈ outcome.2) :
    ∃ steps middle,
      Execution (Does moment job) before steps middle ∧
        outcome.1 = middle.tornDown ∧
        ∀ effect ∈ outcome.2, ¬ Effect.PassesSettings effect := by
  obtain ⟨steps, middle, execution, rfl | ⟨effects, ends, passesNone, rfl⟩⟩ :=
    performs
  · obtain ⟨effects, member, isTearDown⟩ := List.mem_flatten.mp tears
    obtain ⟨_, _, does⟩ := execution.step_of_mem member
    exact absurd isTearDown does.no_tearDown
  · refine ⟨steps, middle, execution, rfl,
      List.forall_mem_append.mpr ⟨passesNone, fun effect member passes => ?_⟩⟩
    rcases ends.quiet effect member with rfl | quiet
    · exact passes
    · cases effect <;> first | exact passes | exact quiet

/-- After a teardown there is no session. -/
theorem eq_tornDown
    (performs : Performs moment job before outcome)
    (tears : .tearDown ∈ outcome.2) :
    ∃ middle : Provider device snow, outcome.1 = middle.tornDown := by
  obtain ⟨_, middle, _, isTornDown, _⟩ := performs.execution_of_tearDown tears
  exact ⟨middle, isTornDown⟩

end Performs

end Provider

namespace Occurrence

/-- The session is torn down. -/
def TearsDown (occurrence : Occurrence device snow) : Prop :=
  .tearDown ∈ occurrence.effects

/-- A start with a policy is accepted. -/
def StartsWith
    (occurrence : Occurrence device snow)
    (networkPolicy : NetworkPolicy device.foundation) :
    Prop :=
  ∃ options protocolConfiguration decision,
    occurrence.job = .startTunnel options protocolConfiguration ∧
      validateStart device.foundation device.ids occurrence.moment.load
          device.platform options protocolConfiguration =
        .ok decision ∧
      decision.networkPolicy = networkPolicy ∧
      ¬ occurrence.TearsDown

/-- The session goes on: no start is accepted and nothing is torn down. -/
def Continues (occurrence : Occurrence device snow) : Prop :=
  ¬ occurrence.TearsDown ∧
    ∀ networkPolicy, ¬ occurrence.StartsWith networkPolicy

/-- The system reports that the first settings of a runtime are in force. -/
def Activates (occurrence : Occurrence device snow) (runtime : Nat) : Prop :=
  ∃ call completionHandler handshakeAlreadyStarted,
    occurrence.job = .settingsInstalled call none ∧
      call.callback =
        .activation completionHandler handshakeAlreadyStarted ∧
      call.runtime = some runtime ∧
      ¬ occurrence.TearsDown

end Occurrence

namespace System

/-- The start accepted last had the policy, and nothing was torn down since. -/
abbrev Started
    (occurrences : List (Occurrence device snow))
    (networkPolicy : NetworkPolicy device.foundation) :
    Prop :=
  Execution.Since Step initial
    (fun _ _ occurrence _ => occurrence.StartsWith networkPolicy)
    Occurrence.Continues
    occurrences

/-- The runtime was activated in a session, and nothing torn down since. -/
abbrev Activated
    (occurrences : List (Occurrence device snow))
    (runtime : Nat) :
    Prop :=
  Execution.Since Step initial
    (fun earlier _ occurrence _ =>
      occurrence.Activates runtime ∧
        ∃ networkPolicy, Started earlier networkPolicy)
    (fun occurrence => ¬ occurrence.TearsDown)
    occurrences

/-- Effects leave the provider to its jobs. -/
theorem absorb_provider
    (effects : List Effect)
    (system : System device snow) :
    (effects.foldl absorb system).provider = system.provider := by
  induction effects generalizing system with
  | nil => rfl
  | cons effect rest inductionHypothesis =>
      rw [List.foldl_cons, inductionHypothesis]
      cases effect <;> rfl

namespace Step

variable
  {before after : System device snow}
  {occurrence : Occurrence device snow}

theorem handled
    (step : Step before occurrence after) :
    before.provider.handle occurrence.moment occurrence.job =
      (after.provider, occurrence.effects) := by
  have effects := congrArg Prod.snd step.done
  have provider := congrArg (fun result => result.1.provider) step.done
  simp only [System.next, absorb_provider] at effects provider
  exact Prod.ext provider effects

theorem performs
    (step : Step before occurrence after) :
    Provider.Performs occurrence.moment occurrence.job before.provider
      (after.provider, occurrence.effects) :=
  step.handled ▸ before.provider.handle_performs occurrence.job

/-- A start that is accepted sets the policy. -/
theorem networkPolicy_of_startsWith
    {networkPolicy : NetworkPolicy device.foundation}
    (step : Step before occurrence after)
    (starts : occurrence.StartsWith networkPolicy)
    (isStarted :
      after.provider.awaitingConfiguration = true ∨
        after.provider.core.isSome) :
    after.provider.networkPolicy = networkPolicy := by
  obtain ⟨options, protocolConfiguration, decision, isJob, accepted, rfl,
    keeps⟩ := starts
  have handled := step.handled
  rw [isJob] at handled
  have result :
      before.provider.startTunnel occurrence.moment options
          protocolConfiguration =
        (after.provider, occurrence.effects) :=
    handled
  have isProvider := congrArg Prod.fst result
  have isEffects := congrArg Prod.snd result
  dsimp only at isProvider isEffects
  rw [← isProvider] at isStarted ⊢
  rw [Occurrence.TearsDown, ← isEffects] at keeps
  unfold Provider.startTunnel at isStarted keeps ⊢
  split
  case isTrue running =>
    rw [if_pos running] at keeps
    exact absurd (List.mem_append_left _ List.mem_cons_self) keeps
  case isFalse notRunning =>
    rw [if_neg notRunning, accepted] at isStarted keeps
    rw [accepted]
    cases decision with
    | awaitDelivery networkPolicy =>
        rfl
    | install networkPolicy configuration =>
        have performs :
            Provider.Performs occurrence.moment
              (.startTunnel options protocolConfiguration)
              (before.provider.awaiting networkPolicy)
              ((before.provider.awaiting networkPolicy).installConfiguration
                occurrence.moment configuration none) :=
          Provider.installConfiguration_performs _ configuration none
        obtain ⟨steps, execution⟩ :=
          performs.execution_of_no_tearDown
            fun member => keeps (List.mem_cons_of_mem _ member)
        refine
          execution.preserves
            (fun provider =>
              provider.awaitingConfiguration = true ∨
                  provider.core.isSome →
                provider.networkPolicy = networkPolicy)
            (fun _ => rfl) ?_ isStarted
        intro middle effects next _ holds does isStarted
        rcases does.started_cases isStarted with
          ⟨wasStarted, samePolicy⟩ |
          ⟨_, _, _, sameJob, sameDecision, isPolicy, _⟩
        · exact samePolicy.trans (holds wasStarted)
        · cases sameJob
          cases accepted.symm.trans sameDecision
          exact isPolicy

/-- A session begins with a start whose policy it has. -/
theorem started
    {occurrences : List (Occurrence device snow)}
    (run : Execution Step initial occurrences before)
    (wasStarted :
      before.provider.awaitingConfiguration = true ∨
          before.provider.core.isSome →
        Started occurrences before.provider.networkPolicy)
    (step : Step before occurrence after)
    (isStarted :
      after.provider.awaitingConfiguration = true ∨
        after.provider.core.isSome) :
    Started (occurrences ++ [occurrence])
      after.provider.networkPolicy := by
  by_cases tears : occurrence.TearsDown
  · obtain ⟨middle, isTornDown⟩ := step.performs.eq_tornDown tears
    simp only at isTornDown
    rw [isTornDown] at isStarted
    rcases isStarted with awaits | hasCore
    · cases awaits
    · cases hasCore
  · obtain ⟨steps, execution⟩ :=
      step.performs.execution_of_no_tearDown tears
    have origin :=
      execution.preserves
        (fun provider =>
          provider.awaitingConfiguration = true ∨ provider.core.isSome →
            Started occurrences provider.networkPolicy ∨
              occurrence.StartsWith provider.networkPolicy)
        (fun isStarted => .inl (wasStarted isStarted))
        (by
          intro middle effects next _ holds does isStarted
          rcases does.started_cases isStarted with
            ⟨wasStarted, samePolicy⟩ |
            ⟨options, protocolConfiguration, decision, isJob, accepted,
              isPolicy, _⟩
          · rw [samePolicy]
            exact holds wasStarted
          · exact .inr ⟨options, protocolConfiguration, decision, isJob,
              accepted, isPolicy.symm, tears⟩)
        isStarted
    by_cases starts :
        ∃ networkPolicy, occurrence.StartsWith networkPolicy
    · obtain ⟨networkPolicy, starts⟩ := starts
      rw [step.networkPolicy_of_startsWith starts isStarted]
      exact .last run step starts
    · rw [not_exists] at starts
      exact (origin.resolve_right (starts _)).snoc ⟨tears, starts⟩

end Step

end System

end HushWire.PacketTunnel
