import HushWire.RunningCore
import HushWire.SessionSettings

namespace HushWire.PacketTunnel

/-!
# The preflight of a protected session

Four calls of the provider pass settings to the system.  Where the policy asks
for a preflight, each of them rests on a peer that the very runtime has
authenticated: it completed a handshake, or it was seen.
-/

open Checked (bind_eq_ok)
open Noise

section Gate

variable {device : Device} {snow : Snow}

/-- The runtime has heard a peer of its configuration. -/
def CoreRuntime.Admitted
    (device : Device)
    (core : CoreRuntime snow)
    (heard : Nat → PeerName → Prop) :
    Prop :=
  ∃ peerName,
    heard core.id peerName ∧
      ∃ peer ∈ core.config.peer,
        device.foundation.equal peer.name peerName = true

namespace CoreRuntime

theorem Same.admitted
    {before after : CoreRuntime snow}
    {heard : Nat → PeerName → Prop}
    (same : before.Same after)
    (admitted : before.Admitted device heard) :
    after.Admitted device heard := by
  unfold Admitted
  rw [same.id, same.config]
  exact admitted

theorem Admitted.mono
    {core : CoreRuntime snow}
    {heard louder : Nat → PeerName → Prop}
    (more : ∀ runtime peerName, heard runtime peerName → louder runtime peerName)
    (admitted : core.Admitted device heard) :
    core.Admitted device louder :=
  admitted.imp fun peerName isHeard => isHeard.imp_left (more _ peerName)

/-- Routes come from the peers of the configuration. -/
theorem MadeFrom.configured
    {core : CoreRuntime snow}
    {configuration : Bytes}
    (made : core.MadeFrom device configuration)
    {route : RouteMetadata}
    (member : route ∈ core.routes) :
    ∃ peer ∈ core.config.peer, peer.name = route.peerName := by
  obtain ⟨toSocketAddrs, localStatic, created⟩ := made
  simp only [createRuntime, bind_eq_ok] at created
  obtain ⟨config, _, _, _, router, built, _, _, isCreated⟩ := created
  cases isCreated
  have isRouter :
      core.router.Of device.decodeBase64 toSocketAddrs core.config := by
    refine Router.new_ok ?_
    cases builds :
        Router.new device.decodeBase64 toSocketAddrs core.config with
    | error error =>
        rw [builds] at built
        cases built
    | ok router =>
        rw [builds] at built
        exact congrArg _ (Except.ok.inj built)
  have named
      {peerConfig : PeerConfig}
      {peer : Peer}
      (configured :
        peerFromConfig device.decodeBase64 toSocketAddrs peerConfig
            core.config.interface.transport =
          .ok peer) :
      peerConfig.name = peer.name := by
    obtain ⟨_, _, _, _, _, isPeer⟩ := peerFromConfig_ok configured
    rw [isPeer]
  rcases List.mem_append.mp member with isIncluded | isExcluded
  · obtain ⟨included, isRoute, rfl⟩ := List.mem_map.mp isIncluded
    obtain ⟨peerConfig, isPeer, configured, _⟩ :=
      (isRouter.routes included).mp isRoute
    exact ⟨peerConfig, isPeer, named configured⟩
  · obtain ⟨excluded, isRoute, rfl⟩ := List.mem_map.mp isExcluded
    obtain ⟨peerConfig, isPeer, configured, _⟩ :=
      (isRouter.excludedRoutes excluded).mp isRoute
    exact ⟨peerConfig, isPeer, named configured⟩

/-- Routes that agree name the same peers. -/
theorem RoutesAgree.mem_peerNames
    {core : CoreRuntime snow}
    {routes : List RouteMetadata}
    (agree : core.RoutesAgree routes)
    {route : RouteMetadata}
    (member : route ∈ routes) :
    route.peerName ∈ core.routes.map RouteMetadata.peerName := by
  have names
      (routes : List RouteMetadata) :
      (routes.map RouteMetadata.withoutEndpoint).map RouteMetadata.peerName =
        routes.map RouteMetadata.peerName :=
    List.map_map
  rw [← names, ← agree, names]
  exact List.mem_map_of_mem member

end CoreRuntime

namespace Provider

/-- What the settings of a session rest on. -/
structure Gated
    (heard : Nat → PeerName → Prop)
    (calls : List SettingsCall)
    (provider : Provider device snow) :
    Prop where
  routeMetadata :
    ∀ core, provider.core = some core →
      core.RoutesAgree provider.routeMetadata
  seen :
    ∀ core, provider.core = some core →
      ∀ peerName, core.engine.Seen peerName → heard core.id peerName
  pending :
    ∀ pending, provider.pendingProtectedActivation = some pending →
      ∃ core,
        provider.core = some core ∧
          core.HasSettings device provider.networkPolicy pending.settings
  cleanup :
    ∀ pending, provider.pendingEndpointRouteCleanup = some pending →
      ∃ core,
        provider.core = some core ∧
          core.HasSettings device provider.networkPolicy pending.settings ∧
          core.Admitted device heard
  transitions :
    ∀ call ∈ calls, ∀ endpoint peerName runtime routes finalSettings,
      call.callback =
        .transition endpoint peerName runtime routes finalSettings →
      runtime < provider.runtimes ∧
        ∀ core, provider.core = some core → core.id = runtime →
          core.RoutesAgree routes ∧
            core.HasSettings device provider.networkPolicy finalSettings ∧
            core.Admitted device heard

/-- What holds of settings that are passed, and of their callback. -/
structure Passes
    (heard : Nat → PeerName → Prop)
    (provider : Provider device snow)
    (core : CoreRuntime snow)
    (settings : NetworkSettings)
    (callback : SettingsCallback) :
    Prop where
  isCore : provider.core = some core
  hasSettings : core.HasSettings device provider.networkPolicy settings
  admitted :
    provider.networkPolicy.routePolicy.requiresAuthenticatedPreflight =
        true →
      core.Admitted device heard
  transition :
    ∀ endpoint peerName runtime routes finalSettings,
      callback =
        .transition endpoint peerName runtime routes finalSettings →
      runtime = core.id ∧
        core.RoutesAgree routes ∧
        core.HasSettings device provider.networkPolicy finalSettings ∧
        core.Admitted device heard

variable
  {heard : Nat → PeerName → Prop}
  {calls : List SettingsCall}

namespace Gated

/-- A provider without a session rests on nothing. -/
theorem of_noCore
    {provider : Provider device snow}
    (noCore : provider.core = none)
    (noPending : provider.pendingProtectedActivation = none)
    (noCleanup : provider.pendingEndpointRouteCleanup = none)
    (older :
      ∀ call ∈ calls, ∀ endpoint peerName runtime routes finalSettings,
        call.callback =
          .transition endpoint peerName runtime routes finalSettings →
        runtime < provider.runtimes) :
    provider.Gated heard calls where
  routeMetadata := fun _ isCore => nomatch noCore.symm.trans isCore
  seen := fun _ isCore => nomatch noCore.symm.trans isCore
  pending := fun _ isPending => nomatch noPending.symm.trans isPending
  cleanup := fun _ isPending => nomatch noCleanup.symm.trans isPending
  transitions := fun call member _ _ _ _ _ isCallback =>
    ⟨older call member _ _ _ _ _ isCallback,
      fun _ isCore => nomatch noCore.symm.trans isCore⟩

theorem mono
    {provider : Provider device snow}
    {louder : Nat → PeerName → Prop}
    (gated : provider.Gated heard calls)
    (more :
      ∀ runtime peerName,
        heard runtime peerName → louder runtime peerName) :
    provider.Gated louder calls where
  routeMetadata := gated.routeMetadata
  seen := fun core isCore peerName seen =>
    more _ _ (gated.seen core isCore peerName seen)
  pending := gated.pending
  cleanup := by
    intro pending isPending
    obtain ⟨core, isCore, has, admitted⟩ := gated.cleanup pending isPending
    exact ⟨core, isCore, has, admitted.mono more⟩
  transitions := by
    intro call member endpoint peerName runtime routes finalSettings
      isCallback
    obtain ⟨older, current⟩ :=
      gated.transitions call member endpoint peerName runtime routes
        finalSettings isCallback
    refine ⟨older, fun core isCore sameRuntime => ?_⟩
    obtain ⟨agree, has, admitted⟩ := current core isCore sameRuntime
    exact ⟨agree, has, admitted.mono more⟩

/-- Without a core nothing is kept back. -/
theorem noPending
    {provider : Provider device snow}
    (gated : provider.Gated heard calls)
    (noCore : provider.core = none) :
    provider.pendingProtectedActivation = none ∧
      provider.pendingEndpointRouteCleanup = none := by
  constructor
  · refine Option.eq_none_iff_forall_ne_some.mpr fun pending isPending => ?_
    obtain ⟨core, isCore, _⟩ := gated.pending pending isPending
    exact nomatch noCore.symm.trans isCore
  · refine Option.eq_none_iff_forall_ne_some.mpr fun pending isPending => ?_
    obtain ⟨core, isCore, _⟩ := gated.cleanup pending isPending
    exact nomatch noCore.symm.trans isCore

/-- The core stays, and nothing new is kept back. -/
theorem sameCore
    {before after : Provider device snow}
    (gated : before.Gated heard calls)
    (core :
      Option.Rel
        (fun core core' : CoreRuntime snow =>
          core.Same core' ∧
            ∀ peerName, core'.engine.Seen peerName →
              heard core'.id peerName)
        before.core after.core)
    (runtimes : after.runtimes = before.runtimes)
    (networkPolicy :
      before.core.isSome → after.networkPolicy = before.networkPolicy)
    (pending :
      ∀ pending, after.pendingProtectedActivation = some pending →
        before.pendingProtectedActivation = some pending)
    (cleanup :
      ∀ pending, after.pendingEndpointRouteCleanup = some pending →
        before.pendingEndpointRouteCleanup = some pending)
    (routeMetadata : after.routeMetadata = before.routeMetadata) :
    after.Gated heard calls := by
  have earlier
      {core' : CoreRuntime snow}
      (isCore : after.core = some core') :
      ∃ old,
        before.core = some old ∧ old.Same core' ∧
          after.networkPolicy = before.networkPolicy := by
    obtain ⟨old, isOld, same, _⟩ := (isCore ▸ core).of_some_right
    exact ⟨old, isOld, same, networkPolicy (by rw [isOld]; rfl)⟩
  have further
      {old : CoreRuntime snow}
      (isOld : before.core = some old) :
      ∃ core',
        after.core = some core' ∧ old.Same core' ∧
          after.networkPolicy = before.networkPolicy := by
    obtain ⟨core', isCore, same, _⟩ := (isOld ▸ core).of_some_left
    exact ⟨core', isCore, same, networkPolicy (by rw [isOld]; rfl)⟩
  refine
    { routeMetadata := fun core' isCore => ?_
      seen := fun core' isCore => ?_
      pending := fun pending' isPending => ?_
      cleanup := fun pending' isPending => ?_
      transitions := fun call member endpoint peerName runtime routes
        finalSettings isCallback => ?_ }
  · obtain ⟨old, isOld, same, _⟩ := earlier isCore
    rw [routeMetadata]
    exact same.routesAgree (gated.routeMetadata old isOld)
  · obtain ⟨_, _, _, seen⟩ := (isCore ▸ core).of_some_right
    exact seen
  · obtain ⟨old, isOld, has⟩ :=
      gated.pending pending' (pending pending' isPending)
    obtain ⟨core', isCore, same, samePolicy⟩ := further isOld
    exact ⟨core', isCore, samePolicy ▸ same.hasSettings has⟩
  · obtain ⟨old, isOld, has, admitted⟩ :=
      gated.cleanup pending' (cleanup pending' isPending)
    obtain ⟨core', isCore, same, samePolicy⟩ := further isOld
    exact ⟨core', isCore, samePolicy ▸ same.hasSettings has,
      same.admitted admitted⟩
  · obtain ⟨older, current⟩ :=
      gated.transitions call member endpoint peerName runtime routes
        finalSettings isCallback
    refine ⟨runtimes ▸ older, fun core' isCore sameRuntime => ?_⟩
    obtain ⟨old, isOld, same, samePolicy⟩ := earlier isCore
    obtain ⟨agree, has, admitted⟩ :=
      current old isOld (same.id.symm.trans sameRuntime)
    exact ⟨same.routesAgree agree, samePolicy ▸ same.hasSettings has,
      same.admitted admitted⟩

/-- A session that only goes on rests on the same. -/
theorem goesOn
    {before after : Provider device snow}
    (gated : before.Gated heard calls)
    (goesOn : before.GoesOn after) :
    after.Gated heard calls := by
  refine gated.sameCore ?_ goesOn.runtimes (fun _ => goesOn.networkPolicy)
    (fun _ isPending => goesOn.pendingProtectedActivation ▸ isPending)
    (fun _ isPending => goesOn.pendingEndpointRouteCleanup ▸ isPending)
    goesOn.routeMetadata
  have related := goesOn.core
  cases isCore : before.core with
  | none =>
      rw [isCore] at related
      cases isAfter : after.core with
      | none => exact .none
      | some core => exact nomatch isAfter ▸ related
  | some core =>
      obtain ⟨later, isLater, continues⟩ := goesOn.core_of_some isCore
      rw [isLater]
      refine .some ⟨continues.same, ?_⟩
      intro peerName seen
      rw [continues.id]
      exact gated.seen core isCore peerName (continues.seen peerName seen)

/-- A configuration that is installed begins with the routes it has. -/
theorem installed
    {before after : Provider device snow}
    {moment : Moment device snow}
    {configuration : Bytes}
    {core : CoreRuntime snow}
    {configurationPlan : ConfigurationPlan}
    {pending : Option PendingProtectedActivation}
    {due : Bool}
    (gated : before.Gated heard calls)
    (loaded :
      before.loadConfiguration moment configuration =
        .ok (core, configurationPlan))
    (keptBack :
      ∀ kept, pending = some kept →
        kept.settings = firstSettings device core configurationPlan)
    (goesOn :
      GoesOn
        { before.install configuration core with
          pendingProtectedActivation := pending
          protectedHandshakeTimeout := due }
        after) :
    after.Gated heard calls := by
  obtain ⟨_, _, noCore, _, ⟨localStatic, isStart⟩, planned⟩ :=
    loadConfiguration_ok loaded
  have isNew : core.id = before.runtimes := congrArg CoreRuntime.id isStart
  have noCleanup := (gated.noPending noCore).2
  refine Gated.goesOn
    { routeMetadata := fun other isCore => ?_
      seen := fun other isCore peerName seen => ?_
      pending := fun kept isKept => ?_
      cleanup := fun kept isKept => ?_
      transitions := fun call member endpoint peerName runtime routes
        finalSettings isCallback => ?_ }
    goesOn
  · cases isCore
    exact rfl
  · cases isCore
    rw [isStart] at seen
    obtain ⟨_, stored, _⟩ := seen
    cases stored
  · refine ⟨core, rfl, core.routes, [], ?_⟩
    rw [keptBack kept isKept]
    exact CoreRuntime.plans_firstSettings planned
  · exact nomatch noCleanup.symm.trans isKept
  · have older :=
      (gated.transitions call member endpoint peerName runtime routes
        finalSettings isCallback).1
    refine ⟨Nat.lt_succ_of_lt older, fun other isCore sameRuntime => ?_⟩
    cases isCore
    exact absurd (isNew.symm.trans sameRuntime) (Nat.ne_of_gt older)

/-- Another endpoint is in use, and other settings are kept back. -/
theorem refreshed
    {before after : Provider device snow}
    {core core' : CoreRuntime snow}
    {routes : List RouteMetadata}
    {cleanup : Option PendingEndpointRouteCleanup}
    (gated : before.Gated heard calls)
    (isCore : before.core = some core)
    (same : core.Same core')
    (seen :
      ∀ peerName, core'.engine.Seen peerName → core.engine.Seen peerName)
    (agree : core.RoutesAgree routes)
    (keptBack :
      ∀ kept, cleanup = some kept →
        core.HasSettings device before.networkPolicy kept.settings ∧
          core.Admitted device heard)
    (goesOn : (before.refreshed core' routes cleanup).GoesOn after) :
    after.Gated heard calls := by
  refine Gated.goesOn
    { routeMetadata := fun other isOther => ?_
      seen := fun other isOther peerName isSeen => ?_
      pending := fun kept isKept => ?_
      cleanup := fun kept isKept => ?_
      transitions := fun call member endpoint peerName runtime routes
        finalSettings isCallback => ?_ }
    goesOn
  · cases isOther
    exact same.routesAgree agree
  · cases isOther
    rw [same.id]
    exact gated.seen core isCore peerName (seen peerName isSeen)
  · obtain ⟨old, isOld, has⟩ := gated.pending kept isKept
    cases isCore.symm.trans isOld
    exact ⟨core', rfl, same.hasSettings has⟩
  · obtain ⟨has, admitted⟩ := keptBack kept isKept
    exact ⟨core', rfl, same.hasSettings has, same.admitted admitted⟩
  · obtain ⟨older, current⟩ :=
      gated.transitions call member endpoint peerName runtime routes
        finalSettings isCallback
    refine ⟨older, fun other isOther sameRuntime => ?_⟩
    cases isOther
    obtain ⟨agree, has, admitted⟩ :=
      current core isCore (same.id.symm.trans sameRuntime)
    exact ⟨same.routesAgree agree, same.hasSettings has,
      same.admitted admitted⟩

end Gated

/-- A peer of the provider's routes is one of the configuration. -/
theorem Coherent.admitted
    {provider : Provider device snow}
    {core : CoreRuntime snow}
    {name peerName : String}
    (coherent : provider.Coherent)
    (isCore : provider.core = some core)
    (isHeard : heard core.id peerName)
    (configured : name ∈ core.routes.map RouteMetadata.peerName)
    (sameName : device.foundation.equal name peerName = true) :
    core.Admitted device heard := by
  obtain ⟨configuration, _, made⟩ := coherent.configured core isCore
  obtain ⟨route, member, rfl⟩ := List.mem_map.mp configured
  obtain ⟨peer, isPeer, isName⟩ := made.configured member
  exact ⟨peerName, isHeard, peer, isPeer, isName ▸ sameName⟩

theorem updatePeerEndpoint_seen
    {core core' : CoreRuntime snow}
    {peerName : String}
    {endpoint : Endpoint}
    {changed : Option Bool}
    (updated :
      core.updatePeerEndpoint peerName endpoint = (changed, core')) :
    ∀ name, core'.engine.Seen name → core.engine.Seen name := by
  unfold CoreRuntime.updatePeerEndpoint at updated
  split at updated
  · cases updated
    exact fun _ seen => seen
  · rename_i address _
    cases updated
    intro name seen
    exact
      ((core.engine.perform_hears
        (.updateResolvedEndpoint peerName address)).seen name
          seen).resolve_right id

/-- A step keeps what the settings of the session rest on. -/
theorem Does.keepsGated
    {moment : Moment device snow}
    {job : Job snow}
    {before after : Provider device snow}
    {effects : List Effect}
    (does : Does moment job before effects after)
    (gated : before.Gated heard calls)
    (outstanding :
      ∀ call error, job = .settingsInstalled call error → call ∈ calls)
    (hears :
      ∀ frame source core,
        job = .receiveTransport frame source →
        before.core = some core →
        ∀ peerName,
          core.engine.AuthenticatesAs frame moment.draws moment.now
            moment.clock peerName →
          heard core.id peerName) :
    after.Gated heard calls := by
  cases does with
  | goesOn goesOn =>
      exact gated.goesOn goesOn
  | @receives core core' frame source _ isJob isCore isHeard _ =>
      refine gated.sameCore ?_ rfl (fun _ => rfl) (fun _ => id)
        (fun _ => id) rfl
      rw [isCore]
      refine .some ⟨isHeard.same, ?_⟩
      intro peerName seen
      rw [isHeard.id]
      rcases isHeard.seen peerName seen with earlier | isNew
      · exact gated.seen core isCore peerName earlier
      · exact hears frame source core isJob isCore peerName isNew
  | @starts _ _ _ decision _ noCore _ _ goesOn =>
      obtain ⟨noPending, noCleanup⟩ := gated.noPending noCore
      have waiting :
          (before.awaiting decision.networkPolicy).core = none :=
        noCore
      refine Gated.goesOn (.of_noCore waiting noPending noCleanup ?_) goesOn
      intro call member _ _ _ _ _ isCallback
      exact (gated.transitions call member _ _ _ _ _ isCallback).1
  | installs _ loaded _ goesOn =>
      exact gated.installed loaded (by rintro _ ⟨⟩; rfl) goesOn
  | installsUnprotected _ loaded =>
      obtain ⟨_, _, noCore, _⟩ := loadConfiguration_ok loaded
      have noPending := (gated.noPending noCore).1
      refine gated.installed loaded ?_ (.refl _)
      intro kept isKept
      exact nomatch noPending.symm.trans isKept
  | @releases _ _ core _ _ isCore _ _ _ goesOn =>
      have released : before.released.Gated heard calls :=
        gated.sameCore
          (isCore ▸ .some ⟨.refl core, gated.seen core isCore⟩) rfl
          (fun _ => rfl) (fun _ isKept => nomatch isKept) (fun _ => id) rfl
      exact released.goesOn goesOn
  | @cleansUp _ core _ _ isCore =>
      exact gated.sameCore
        (isCore ▸ .some ⟨.refl core, gated.seen core isCore⟩) rfl
        (fun _ => rfl) (fun _ => id) (fun _ isKept => nomatch isKept) rfl
  | runs _ _ goesOn =>
      have activated : before.activated.Gated heard calls :=
        { gated with }
      exact activated.goesOn goesOn
  | resolves _ _ _ goesOn =>
      exact gated.goesOn goesOn
  | transitions _ _ _ _ _ _ _ _ goesOn =>
      exact gated.goesOn goesOn
  | @refreshes _ call core core' endpoint peerName routes finalSettings _
      isJob isCallback isCore _ updated goesOn =>
      obtain ⟨_, current⟩ :=
        gated.transitions call (outstanding call none isJob) endpoint
          peerName core.id routes finalSettings isCallback
      obtain ⟨agree, has, admitted⟩ := current core isCore rfl
      refine gated.refreshed isCore (updatePeerEndpoint_same updated)
        (updatePeerEndpoint_seen updated) agree ?_ goesOn
      rintro kept ⟨⟩
      exact ⟨has, admitted⟩
  | @refreshesUnprotected _ core core' endpoint peerName _ isCore _ updated
      goesOn =>
      refine gated.refreshed isCore (updatePeerEndpoint_same updated)
        (updatePeerEndpoint_seen updated)
        (updatedRoutes_agree (gated.routeMetadata core isCore) endpoint
          peerName) ?_ goesOn
      intro kept isKept
      obtain ⟨_, isOld, has, admitted⟩ := gated.cleanup kept isKept
      cases isCore.symm.trans isOld
      exact ⟨has, admitted⟩

/-- What the settings that a step passes rest on. -/
theorem Does.passes
    {moment : Moment device snow}
    {job : Job snow}
    {before after : Provider device snow}
    {effects : List Effect}
    {settings : NetworkSettings}
    {callback : SettingsCallback}
    (does : Does moment job before effects after)
    (coherent : before.Coherent)
    (gated : before.Gated heard calls)
    (answered :
      ∀ handshake, job = .handshakeCompleted handshake →
        heard handshake.runtime handshake.peerName)
    (passed : .setTunnelNetworkSettings settings callback ∈ effects) :
    ∃ core, after.Passes heard core settings callback := by
  cases does with
  | goesOn _ quiet | installs _ _ _ _ quiet | runs _ _ _ quiet
  | refreshes _ _ _ _ _ _ quiet | refreshesUnprotected _ _ _ _ quiet =>
      exact (quiet _ passed).elim
  | receives _ _ _ onlyHandshakes =>
      rcases onlyHandshakes _ passed with quiet | ⟨_, _, isOther, _⟩
      · exact quiet.elim
      · cases isOther
  | starts | resolves =>
      simp at passed
  | @installsUnprotected _ core _ _ _ loaded isUnprotected =>
      obtain ⟨_, _, _, _, _, planned⟩ := loadConfiguration_ok loaded
      cases List.mem_singleton.mp passed
      exact ⟨core,
        { isCore := rfl
          hasSettings :=
            ⟨core.routes, [], CoreRuntime.plans_firstSettings planned⟩
          admitted := fun isProtected =>
            nomatch isUnprotected.symm.trans isProtected
          transition := fun _ _ _ _ _ isOther => nomatch isOther }⟩
  | @releases _ handshake core pending isJob isCore sameRuntime configured
      isPending goesOn =>
      cases List.mem_singleton.mp passed
      obtain ⟨_, isOld, has⟩ := gated.pending pending isPending
      cases isCore.symm.trans isOld
      obtain ⟨later, isLater, same⟩ := goesOn.same_of_some isCore
      obtain ⟨name, member, sameName⟩ := configured
      have admitted : core.Admitted device heard :=
        coherent.admitted isCore (sameRuntime ▸ answered handshake isJob)
          (Foundation.mem_of_mem_sortedSet
            (coherent.peerNames core isCore ▸ member))
          sameName
      exact ⟨later,
        { isCore := isLater
          hasSettings := goesOn.networkPolicy ▸ same.hasSettings has
          admitted := fun _ => same.admitted admitted
          transition := fun _ _ _ _ _ isOther => nomatch isOther }⟩
  | @cleansUp handshake core pending _ isCore _ isPending =>
      cases List.mem_singleton.mp passed
      obtain ⟨_, isOld, has, admitted⟩ := gated.cleanup pending isPending
      cases isCore.symm.trans isOld
      exact ⟨core,
        { isCore
          hasSettings := has
          admitted := fun _ => admitted
          transition := fun _ _ _ _ _ isOther => nomatch isOther }⟩
  | @transitions _ core interface currentRoute peerName endpoint
      updatedPlan _ isCore _ isInterface isRoute isSeen planned isProtected
      goesOn =>
      cases List.mem_singleton.mp passed
      obtain ⟨later, isLater, same⟩ := goesOn.same_of_some isCore
      have agree := gated.routeMetadata core isCore
      cases (coherent.interfaceMetadata core isCore).symm.trans isInterface
      have plans (additional : List IPv4RouteSpec) :
          later.Plans device after.networkPolicy
            (before.updatedRoutes endpoint peerName) additional
            (makeNetworkSettings device.foundation core.interfaceMetadata
              (before.updatedRoutes endpoint peerName) updatedPlan
              additional) :=
        goesOn.networkPolicy ▸
          same.plans
            { routesAgree := updatedRoutes_agree agree endpoint peerName
              planned := ⟨updatedPlan, planned, rfl⟩ }
      obtain ⟨seenName, sameName, seen⟩ := isSeen
      have sameRoute :
          device.foundation.equal currentRoute.peerName peerName = true := by
        simpa using List.find?_some isRoute
      have admitted : later.Admitted device heard :=
        same.admitted
          (coherent.admitted isCore (gated.seen core isCore seenName seen)
            (agree.mem_peerNames (List.mem_of_find?_eq_some isRoute))
            (Foundation.equal_trans sameRoute
              (Foundation.equal_symm sameName)))
      refine ⟨later,
        { isCore := isLater
          hasSettings := ⟨_, _, plans _⟩
          admitted := fun _ => admitted
          transition := ?_ }⟩
      rintro _ _ _ _ _ ⟨⟩
      exact ⟨same.id.symm, same.routesAgree
        (updatedRoutes_agree agree endpoint peerName), ⟨_, _, plans _⟩,
        admitted⟩

/-- A completed handshake is announced when its frame is received. -/
theorem Does.announces
    {moment : Moment device snow}
    {job : Job snow}
    {before after : Provider device snow}
    {effects : List Effect}
    {runtime : Nat}
    {peerName : String}
    {endpoint : Endpoint}
    (does : Does moment job before effects after)
    (announced :
      .handshakeCompleted runtime peerName endpoint ∈ effects) :
    ∃ frame source core,
      job = .receiveTransport frame source ∧
        before.core = some core ∧
        core.id = runtime ∧
        core.engine.AuthenticatesAs frame moment.draws moment.now
          moment.clock peerName := by
  have silent
      {effects : List Effect}
      (quiet : ∀ effect ∈ effects, effect.IsQuiet) :
      .handshakeCompleted runtime peerName endpoint ∉ effects :=
    fun member => quiet _ member
  cases does with
  | goesOn _ quiet => exact absurd announced (silent quiet)
  | @receives core _ frame source _ isJob isCore _ onlyHandshakes =>
      rcases onlyHandshakes _ announced with
        quiet | ⟨_, _, isEffect, authenticates⟩
      · exact quiet.elim
      · cases isEffect
        exact ⟨frame, source, core, isJob, isCore, rfl, authenticates⟩
  | installs _ _ _ _ quiet => exact absurd announced (silent quiet)
  | runs _ _ _ quiet => exact absurd announced (silent quiet)
  | refreshes _ _ _ _ _ _ quiet => exact absurd announced (silent quiet)
  | refreshesUnprotected _ _ _ _ quiet =>
      exact absurd announced (silent quiet)
  | _ => simp at announced

/-- What settings rest on stays while the job goes on. -/
theorem Passes.later
    {moment : Moment device snow}
    {job : Job snow}
    {before after : Provider device snow}
    {core : CoreRuntime snow}
    {effects : List Effect}
    {settings : NetworkSettings}
    {callback : SettingsCallback}
    (passes : before.Passes heard core settings callback)
    (does : Does moment job before effects after) :
    ∃ later, after.Passes heard later settings callback := by
  obtain ⟨later, isLater, same⟩ := does.core_same passes.isCore
  have samePolicy : after.networkPolicy = before.networkPolicy :=
    does.networkPolicy_eq (by rw [passes.isCore]; rfl)
  refine ⟨later,
    { isCore := isLater
      hasSettings := samePolicy ▸ same.hasSettings passes.hasSettings
      admitted := fun isProtected =>
        same.admitted (passes.admitted (samePolicy ▸ isProtected))
      transition := fun endpoint peerName runtime routes finalSettings
        isCallback => ?_ }⟩
  obtain ⟨sameRuntime, agree, has, admitted⟩ :=
    passes.transition endpoint peerName runtime routes finalSettings
      isCallback
  exact ⟨sameRuntime.trans same.id.symm, same.routesAgree agree,
    samePolicy ▸ same.hasSettings has, same.admitted admitted⟩

/-- A job that hears nobody keeps what settings rest on. -/
theorem gated_of_execution
    {moment : Moment device snow}
    {job : Job snow}
    {before after : Provider device snow}
    {steps : List (List Effect)}
    (execution : Execution (Does moment job) before steps after)
    (coherent : before.Coherent)
    (gated : before.Gated heard calls)
    (outstanding :
      ∀ call error, job = .settingsInstalled call error → call ∈ calls)
    (answered :
      ∀ handshake, job = .handshakeCompleted handshake →
        heard handshake.runtime handshake.peerName)
    (hearsNobody : ∀ frame source, job ≠ .receiveTransport frame source) :
    after.Coherent ∧
      after.Gated heard calls ∧
      ∀ settings callback,
        .setTunnelNetworkSettings settings callback ∈ steps.flatten →
        ∃ core, after.Passes heard core settings callback := by
  induction execution with
  | nil => exact ⟨coherent, gated, by simp⟩
  | snoc _ does inductionHypothesis =>
      obtain ⟨stillCoherent, stillGated, earlier⟩ := inductionHypothesis
      have nowGated :=
        does.keepsGated stillGated outstanding
          fun frame source _ isJob => absurd isJob (hearsNobody frame source)
      refine ⟨?_, nowGated, fun settings callback passed => ?_⟩
      · exact does.session_cases.elim stillCoherent.sameSession
          Coherent.installs
      · rw [List.flatten_append, List.flatten_singleton] at passed
        rcases List.mem_append.mp passed with before | isNow
        · obtain ⟨core, passes⟩ := earlier settings callback before
          exact passes.later does
        · exact does.passes stillCoherent stillGated answered isNow

/-- The timer of the preflight only runs while settings are kept back. -/
def Timed (provider : Provider device snow) : Prop :=
  provider.protectedHandshakeTimeout = true →
    provider.pendingProtectedActivation.isSome

theorem Does.timed
    {moment : Moment device snow}
    {job : Job snow}
    {before after : Provider device snow}
    {effects : List Effect}
    (does : Does moment job before effects after)
    (timed : before.Timed) :
    after.Timed := by
  have went
      {middle after : Provider device snow}
      (goesOn : middle.GoesOn after)
      (timed : middle.Timed) :
      after.Timed := by
    intro due
    rw [goesOn.pendingProtectedActivation]
    exact timed (goesOn.protectedHandshakeTimeout due)
  cases does with
  | goesOn goesOn => exact went goesOn timed
  | receives => exact timed
  | starts _ _ _ _ goesOn => exact went goesOn timed
  | installs _ _ _ goesOn => exact went goesOn fun _ => rfl
  | installsUnprotected => exact timed
  | releases _ _ _ _ _ goesOn => exact went goesOn fun due => nomatch due
  | cleansUp => exact timed
  | runs _ _ goesOn => exact went goesOn timed
  | resolves _ _ _ goesOn => exact went goesOn timed
  | transitions _ _ _ _ _ _ _ _ goesOn => exact went goesOn timed
  | refreshes _ _ _ _ _ goesOn => exact went goesOn timed
  | refreshesUnprotected _ _ _ goesOn => exact went goesOn timed

/-- Runtimes from a number on are newer than all that came before. -/
structure Newer (number : Nat) (provider : Provider device snow) : Prop where
  runtimes : number ≤ provider.runtimes
  core : ∀ core, provider.core = some core → number ≤ core.id

theorem Does.runtimes_le
    {moment : Moment device snow}
    {job : Job snow}
    {before after : Provider device snow}
    {effects : List Effect}
    (does : Does moment job before effects after) :
    before.runtimes ≤ after.runtimes := by
  rcases does.session_cases with same | isInstalled
  · exact same.runtimes.ge
  · rw [isInstalled.runtimes]
    exact Nat.le_succ _

theorem Does.newer
    {moment : Moment device snow}
    {job : Job snow}
    {before after : Provider device snow}
    {effects : List Effect}
    {number : Nat}
    (does : Does moment job before effects after)
    (newer : before.Newer number) :
    after.Newer number where
  runtimes := newer.runtimes.trans does.runtimes_le
  core := by
    intro core isCore
    rcases does.session_cases with same | isInstalled
    · obtain ⟨old, isOld, sameCore⟩ := (isCore ▸ same.core).of_some_right
      rw [sameCore.id]
      exact newer.core old isOld
    · obtain ⟨new, _, isNew, identity, _⟩ := isInstalled.installed
      cases isCore.symm.trans isNew
      rw [identity]
      exact newer.runtimes

end Provider

namespace System

/-- The runtime has authenticated a peer with a frame. -/
abbrev Heard
    (occurrences : List (Occurrence device snow))
    (runtime : Nat)
    (peerName : PeerName) :
    Prop :=
  Execution.Since Step initial
    (fun _ before occurrence _ =>
      ∃ frame source core,
        occurrence.job = .receiveTransport frame source ∧
          before.provider.core = some core ∧
          core.id = runtime ∧
          core.engine.AuthenticatesAs frame occurrence.moment.draws
            occurrence.moment.now occurrence.moment.clock peerName)
    (fun _ => True)
    occurrences

/-- The state of a run, and what its settings rest on. -/
structure Gate
    (occurrences : List (Occurrence device snow))
    (system : System device snow) :
    Prop where
  coherent : system.provider.Coherent
  timed : system.provider.Timed
  started :
    system.provider.awaitingConfiguration = true ∨
        system.provider.core.isSome →
      Started occurrences system.provider.networkPolicy
  gated : system.provider.Gated (Heard occurrences) system.calls
  handshakes :
    ∀ handshake ∈ system.handshakes,
      Heard occurrences handshake.runtime handshake.peerName

namespace Step

variable
  {before after : System device snow}
  {occurrence : Occurrence device snow}

/-- Receiving a frame is one step of the provider. -/
theorem does_of_receives
    (step : Step before occurrence after)
    {frame : Bytes}
    {source : SocketAddr}
    (isJob : occurrence.job = .receiveTransport frame source) :
    Provider.Does occurrence.moment occurrence.job before.provider
      occurrence.effects after.provider := by
  have handled := step.handled
  rw [isJob] at handled ⊢
  have result :
      before.provider.receiveTransport occurrence.moment frame source =
        (after.provider, occurrence.effects) :=
    handled
  have does :=
    before.provider.receiveTransport_does occurrence.moment frame source
  rw [result] at does
  exact does

theorem announces
    (step : Step before occurrence after)
    {runtime : Nat}
    {peerName : String}
    {endpoint : Endpoint}
    (announced :
      .handshakeCompleted runtime peerName endpoint ∈ occurrence.effects) :
    ∃ frame source core,
      occurrence.job = .receiveTransport frame source ∧
        before.provider.core = some core ∧
        core.id = runtime ∧
        core.engine.AuthenticatesAs frame occurrence.moment.draws
          occurrence.moment.now occurrence.moment.clock peerName := by
  by_cases receives :
      ∃ frame source, occurrence.job = .receiveTransport frame source
  · obtain ⟨frame, source, isJob⟩ := receives
    exact (step.does_of_receives isJob).announces announced
  · have silent
        {steps : List (List Effect)}
        {middle : Provider device snow}
        (execution :
          Execution (Provider.Does occurrence.moment occurrence.job)
            before.provider steps middle) :
        .handshakeCompleted runtime peerName endpoint ∉ steps.flatten := by
      intro member
      obtain ⟨effects, isStep, isEffect⟩ := List.mem_flatten.mp member
      obtain ⟨_, _, does⟩ := execution.step_of_mem isStep
      obtain ⟨frame, source, _, isJob, _⟩ := does.announces isEffect
      exact receives ⟨frame, source, isJob⟩
    obtain ⟨steps, middle, execution, isDone | ⟨effects, ends, _, isDone⟩⟩ :=
      step.performs
    · rw [(Prod.mk.inj isDone).2] at announced
      exact absurd announced (silent execution)
    · rw [(Prod.mk.inj isDone).2] at announced
      rcases List.mem_append.mp announced with before | atEnd
      · exact absurd before (silent execution)
      · rcases ends.quiet _ atEnd with isTearDown | quiet
        · cases isTearDown
        · exact quiet.elim

/-- A job that tears down passes no settings. -/
theorem passes_none
    (step : Step before occurrence after)
    (tears : occurrence.TearsDown)
    (settings : NetworkSettings)
    (callback : SettingsCallback) :
    .setTunnelNetworkSettings settings callback ∉ occurrence.effects := by
  obtain ⟨_, _, _, _, passesNone⟩ :=
    step.performs.execution_of_tearDown tears
  exact fun passed => passesNone _ passed trivial

theorem outstanding
    (step : Step before occurrence after)
    (call : SettingsCall)
    (error : Option ProviderError)
    (isJob : occurrence.job = .settingsInstalled call error) :
    call ∈ before.calls := by
  have enabled := step.enabled
  rw [isJob] at enabled
  exact enabled

/-- Teardowns keep the count of runtimes. -/
theorem runtimes_le (step : Step before occurrence after) :
    before.provider.runtimes ≤ after.provider.runtimes :=
  step.performs.preserved
    (fun provider => before.provider.runtimes ≤ provider.runtimes) le_rfl
    (fun holds does => holds.trans does.runtimes_le) fun _ holds => holds

/-- Newer runtimes are followed by newer ones. -/
theorem newer
    {number : Nat}
    (step : Step before occurrence after)
    (isNewer : before.provider.Newer number) :
    after.provider.Newer number :=
  step.performs.preserved (Provider.Newer number) isNewer
    (fun holds does => does.newer holds)
    fun _ holds => ⟨holds.runtimes, fun _ isCore => nomatch isCore⟩

/-- After a teardown all runtimes are newer. -/
theorem newer_of_tearsDown
    (step : Step before occurrence after)
    (tears : occurrence.TearsDown) :
    after.provider.Newer before.provider.runtimes where
  runtimes := step.runtimes_le
  core := by
    obtain ⟨middle, isTornDown⟩ := step.performs.eq_tornDown tears
    simp only at isTornDown
    rw [isTornDown]
    exact fun _ isCore => nomatch isCore

/-- What a step keeps, and what the settings that it passes rest on. -/
theorem gated
    {occurrences : List (Occurrence device snow)}
    (run : Execution Step initial occurrences before)
    (gate : Gate occurrences before)
    (step : Step before occurrence after) :
    after.provider.Gated (Heard (occurrences ++ [occurrence]))
        before.calls ∧
      ∀ settings callback,
        .setTunnelNetworkSettings settings callback ∈ occurrence.effects →
        ∃ core,
          after.provider.Passes (Heard occurrences) core settings
            callback := by
  have goesBack (runtime : Nat) (peerName : PeerName)
      (isHeard : Heard occurrences runtime peerName) :
      Heard (occurrences ++ [occurrence]) runtime peerName :=
    isHeard.snoc trivial
  have answered (handshake : CompletedHandshake)
      (isJob : occurrence.job = .handshakeCompleted handshake) :
      Heard occurrences handshake.runtime handshake.peerName := by
    have enabled := step.enabled
    rw [isJob] at enabled
    exact gate.handshakes handshake enabled
  by_cases tears : occurrence.TearsDown
  · obtain ⟨middle, isTornDown⟩ := step.performs.eq_tornDown tears
    simp only at isTornDown
    refine ⟨?_, fun settings callback passed =>
      absurd passed (step.passes_none tears settings callback)⟩
    refine .of_noCore ?_ ?_ ?_ fun call member _ _ _ _ _ isCallback => ?_
    · rw [isTornDown]
      rfl
    · rw [isTornDown]
      rfl
    · rw [isTornDown]
      rfl
    · exact
        (gate.gated.transitions call member _ _ _ _ _
          isCallback).1.trans_le step.runtimes_le
  · by_cases receives :
        ∃ frame source, occurrence.job = .receiveTransport frame source
    · obtain ⟨frame, source, isJob⟩ := receives
      refine ⟨?_, fun settings callback passed => ?_⟩
      · refine (step.does_of_receives isJob).keepsGated
          (gate.gated.mono goesBack) step.outstanding ?_
        intro frame source core isJob isCore peerName authenticates
        exact .last run step
          ⟨frame, source, core, isJob, isCore, rfl, authenticates⟩
      · have handled := step.handled
        rw [isJob] at handled
        have received :
            (before.provider.receiveTransport occurrence.moment frame
              source).2 = occurrence.effects :=
          congrArg Prod.snd handled
        rw [← received] at passed
        exact (before.provider.callCore_passes_none _ _ passed trivial).elim
    · obtain ⟨steps, execution, isEffects⟩ :=
        step.performs.keeps_of_no_tearDown tears
      obtain ⟨_, isGated, passes⟩ :=
        Provider.gated_of_execution execution gate.coherent gate.gated
          step.outstanding answered
          fun frame source isJob => receives ⟨frame, source, isJob⟩
      refine ⟨isGated.mono goesBack, fun settings callback passed => ?_⟩
      exact passes settings callback (isEffects ▸ passed)

end Step

namespace Gate

variable
  {occurrences : List (Occurrence device snow)}
  {before after : System device snow}
  {occurrence : Occurrence device snow}

theorem initial : Gate [] (initial : System device snow) where
  coherent := .tornDown .idle
  timed := fun due => nomatch due
  started := fun isStarted =>
    isStarted.elim (fun awaits => nomatch awaits)
      fun hasCore => nomatch hasCore
  gated := .of_noCore rfl rfl rfl fun _ member => nomatch member
  handshakes := fun _ member => nomatch member

/-- Steps keep what holds. -/
theorem step
    (run : Execution Step System.initial occurrences before)
    (gate : Gate occurrences before)
    (taken : Step before occurrence after) :
    Gate (occurrences ++ [occurrence]) after := by
  obtain ⟨gated, passes⟩ := taken.gated run gate
  refine
    { coherent := taken.performs.coherent gate.coherent
      timed :=
        taken.performs.invariant Provider.Timed gate.timed
          (fun holds does => does.timed holds) fun _ due => nomatch due
      started := taken.started run gate.started
      gated :=
        { gated with
          transitions := fun call member endpoint peerName runtime routes
            finalSettings isCallback => ?_ }
      handshakes := fun handshake member => ?_ }
  · rcases taken.mem_calls member with
      earlier | ⟨settings, callback, passed, rfl⟩
    · exact gated.transitions call earlier endpoint peerName runtime routes
        finalSettings isCallback
    · obtain ⟨core, isPassed⟩ := passes settings callback passed
      have goesBack (runtime : Nat) (peerName : PeerName)
          (isHeard : Heard occurrences runtime peerName) :
          Heard (occurrences ++ [occurrence]) runtime peerName :=
        isHeard.snoc trivial
      obtain ⟨rfl, agree, has, admitted⟩ :=
        isPassed.transition endpoint peerName runtime routes finalSettings
          isCallback
      have coherent := taken.performs.coherent gate.coherent
      refine ⟨coherent.identity core isPassed.isCore, ?_⟩
      intro other isOther _
      cases isPassed.isCore.symm.trans isOther
      exact ⟨agree, has, admitted.mono goesBack⟩
  · rcases taken.mem_handshakes member with earlier | announced
    · exact (gate.handshakes handshake earlier).snoc trivial
    · exact .last run taken (taken.announces announced)

/-- Every run goes through the gate. -/
theorem of_execution
    {system : System device snow}
    (run : Execution Step System.initial occurrences system) :
    Gate occurrences system := by
  induction run with
  | nil => exact initial
  | snoc earlier taken inductionHypothesis =>
      exact inductionHypothesis.step earlier taken

end Gate

/-- A stop, and a preflight that takes too long, end the session. -/
theorem Step.tearsDown_of_end
    {occurrences : List (Occurrence device snow)}
    {before after : System device snow}
    {occurrence : Occurrence device snow}
    (gate : Gate occurrences before)
    (step : Step before occurrence after)
    (ends :
      occurrence.job = .stopTunnel ∨
        occurrence.job = .protectedHandshakeExpired) :
    occurrence.TearsDown := by
  have handled := step.handled
  rcases ends with isStop | isExpired
  · rw [isStop] at handled
    have stopped : before.provider.stopTunnel.2 = occurrence.effects :=
      congrArg Prod.snd handled
    rw [Occurrence.TearsDown, ← stopped]
    exact List.mem_append_left _ List.mem_cons_self
  · have due := step.enabled
    rw [isExpired] at due handled
    obtain ⟨pending, isPending⟩ :=
      Option.isSome_iff_exists.mp (gate.timed due)
    have expired :
        before.provider.protectedHandshakeExpired.2 = occurrence.effects :=
      congrArg Prod.snd handled
    rw [Occurrence.TearsDown, ← expired]
    simp [Provider.protectedHandshakeExpired, isPending,
      Provider.finishFailedConfiguration, Provider.tearDownRuntime]

/-- Runtimes after a teardown are not those before it. -/
theorem newer_of_execution
    {number : Nat}
    {before after : System device snow}
    {occurrences : List (Occurrence device snow)}
    (execution : Execution Step before occurrences after)
    (newer : before.provider.Newer number) :
    after.provider.Newer number :=
  execution.preserves (fun system => system.provider.Newer number) newer
    fun _ holds step => step.newer holds

end System

end Gate

/--
Settings are only passed for a runtime that has authenticated a peer of its
configuration, where the policy asks for that, and never for one whose session
has ended.
-/
theorem settings_after_authentication
    {device : Device}
    {snow : Snow}
    {occurrences : List (Occurrence device snow)}
    {before after : System device snow}
    {occurrence : Occurrence device snow}
    {settings : NetworkSettings}
    {callback : SettingsCallback}
    (run : Execution System.Step .initial occurrences before)
    (step : System.Step before occurrence after)
    (passed :
      .setTunnelNetworkSettings settings callback ∈ occurrence.effects) :
    ∃ core networkPolicy,
      after.provider.core = some core ∧
        System.Started (occurrences ++ [occurrence]) networkPolicy ∧
        core.HasSettings device networkPolicy settings ∧
        (networkPolicy.routePolicy.requiresAuthenticatedPreflight = true →
          core.Admitted device (System.Heard occurrences)) ∧
        ∀ earlier ending later torn old,
          occurrences = earlier ++ ending :: later →
          Execution System.Step .initial earlier torn →
          torn.provider.core = some old →
          ending.job = .stopTunnel ∨
              ending.job = .protectedHandshakeExpired ∨
              ending.TearsDown →
          old.id ≠ core.id := by
  have gate := System.Gate.of_execution run
  obtain ⟨core, passes⟩ := (step.gated run gate).2 settings callback passed
  refine ⟨core, after.provider.networkPolicy, passes.isCore,
    step.started run gate.started (.inr (by rw [passes.isCore]; rfl)),
    passes.hasSettings, passes.admitted, ?_⟩
  rintro earlier ending later torn old rfl execution isOld ends
  obtain ⟨middle, first, rest⟩ := run.split
  have sameState : middle = torn :=
    first.deterministic (fun _ _ _ _ step other => step.functional other)
      execution
  cases sameState
  rw [← List.singleton_append] at rest
  obtain ⟨tornDown, ended, continued⟩ := rest.split
  have endStep := ended.step_of_singleton
  have earlierGate := System.Gate.of_execution execution
  have tears : ending.TearsDown := by
    rcases ends with isStop | isExpired | tears
    · exact endStep.tearsDown_of_end earlierGate (.inl isStop)
    · exact endStep.tearsDown_of_end earlierGate (.inr isExpired)
    · exact tears
  have newer :=
    step.newer
      (System.newer_of_execution continued (endStep.newer_of_tearsDown tears))
  have older := earlierGate.coherent.identity old isOld
  exact Nat.ne_of_lt (older.trans_le (newer.core core passes.isCore))

namespace ProviderExample

/-- Settings that carry everything but the endpoint. -/
def fullSettings : NetworkSettings where
  tunnelRemoteAddress := "192.0.2.10"
  addresses := ["10.77.0.1"]
  subnetMasks := ["255.255.255.255"]
  includedRoutes := [⟨"0.0.0.0", 1⟩, ⟨"128.0.0.0", 1⟩]
  excludedRoutes := [⟨"192.0.2.10", 32⟩]
  dnsServers := []
  mtu := 1280

def fullStarted : System device PlainNoise.snow :=
  next .initial (start .fullTunnel)

def fullDelivered : System device PlainNoise.snow :=
  next fullStarted (deliver 0x66)

/-- The peer answers the initiation that an effect has sent. -/
def answer (id : UInt8) (effects : List Effect) : Bytes :=
  (effects.findSome? fun
    | .perform (.sendTransport _ _ frame) =>
        match Auth.decodePacket frame with
        | some (.handshake .handshakeInit handshakeId message) =>
            some
              (Auth.encodeHandshake .handshakeResponse handshakeId
                ([id] ++ message ++ (SessionId.fill id).bytes))
        | _ => none
    | _ => none).getD []

/-- The answer arrives. -/
def receive : Job PlainNoise.snow :=
  .receiveTransport
    (answer 9 (occurrence fullStarted (deliver 0x66)).effects)
    ⟨.v4 0xc000020a, 11063⟩

def received : System device PlainNoise.snow :=
  next fullDelivered receive

def completed : Job PlainNoise.snow :=
  .handshakeCompleted ⟨0, "exit", endpointToFfi ⟨.v4 0xc000020a, 11063⟩⟩

/-- The first settings were passed. -/
def released : System device PlainNoise.snow :=
  next received completed

def receivedRun : List (Occurrence device PlainNoise.snow) :=
  [occurrence .initial (start .fullTunnel),
    occurrence fullStarted (deliver 0x66), occurrence fullDelivered receive]

theorem received_execution :
    Execution System.Step .initial receivedRun received :=
  .snoc (.snoc (.single (.of_next trivial)) (.of_next trivial))
    (.of_next trivial)

end ProviderExample

/-- A full tunnel whose peer answers. -/
theorem settings_after_authentication_example :
    ∃ core networkPolicy,
      ProviderExample.released.provider.core = some core ∧
        System.Started
          (ProviderExample.receivedRun ++
            [ProviderExample.occurrence ProviderExample.received
              ProviderExample.completed])
          networkPolicy ∧
        core.HasSettings ProviderExample.device networkPolicy
          ProviderExample.fullSettings ∧
        (networkPolicy.routePolicy.requiresAuthenticatedPreflight = true →
          core.Admitted ProviderExample.device
            (System.Heard ProviderExample.receivedRun)) ∧
        ∀ earlier ending later torn old,
          ProviderExample.receivedRun = earlier ++ ending :: later →
          Execution System.Step .initial earlier torn →
          torn.provider.core = some old →
          ending.job = .stopTunnel ∨
              ending.job = .protectedHandshakeExpired ∨
              ending.TearsDown →
          old.id ≠ core.id :=
  settings_after_authentication ProviderExample.received_execution
    (.of_next (by decide +kernel))
    (by decide +kernel :
      .setTunnelNetworkSettings ProviderExample.fullSettings
          (.activation none true) ∈
        (ProviderExample.occurrence ProviderExample.received
          ProviderExample.completed).effects)

end HushWire.PacketTunnel
