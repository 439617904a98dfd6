import HushWire.Gateway
import HushWire.RouteRollback

namespace HushWire

/-!
# Starting a tunnel

`tunnel::run` up to its worker threads: it takes a device and a transport, sets
up routes, and on an exit node a firewall, and prepares for signals.  What was
changed by then is known to a `Cleanup`, which exists only after the firewall
is set up and which no early return runs.

Which of the calls fail is a parameter.  A command that fails has no effect,
and undoing a change succeeds.  The changes are those the program makes: that
the kernel itself drops the routes through a TUN device once it is closed is
not modelled.
-/

namespace Tunnel

open Commands (bind_eq_ok bind_eq_error)

/-- The calls that can make a start fail, in the order of the source. -/
inductive StartCall where
  | newRouter
  | withRouter
  | createTun
  | bindTransport
  | setupRoutes
  | readIpForward
  | writeIpForward
  | masquerade
  | forwardIn
  | forwardOut
  | normalizeShutdownSignalState
  | newSignals
  | localAddr
  | cloneWriter
  | cloneKeepalive
  deriving DecidableEq

structure StartError where
  call : StartCall
  context : String
  deriving DecidableEq

/-- What a start may change of a host. -/
@[ext] structure HostState where
  routes : List HostRoute
  chains : IptablesLocation → List RuleSpec
  ipForward : String

/-- What a start finds outside of the program. -/
structure Machine where
  decodeBase64 : String → Option Bytes
  toSocketAddrs : String → UInt16 → Except String (List SocketAddr)
  routes : Host
  answers : StartCall → Except String Unit

/-- A rule that the firewall manager has added. -/
structure FirewallRule where
  location : IptablesLocation
  spec : RuleSpec
  deriving DecidableEq

structure FirewallManager where
  tunName : String
  subnet : String
  originalIpForward : Option String
  rules : List FirewallRule
  deriving DecidableEq

/-- What is to be undone when the tunnel ends. -/
structure Cleanup where
  routes : List InstalledRoute
  firewall : Option FirewallManager
  deriving DecidableEq

abbrev Starting := EStateM StartError HostState

/-- The subnet of an interface address. -/
def subnetCidr (address : Ipv4Net) : String :=
  s!"{Ipv4Addr.text address.network}/{address.prefixLen.val}"

namespace HostState

/-- Append a rule to its chain. -/
def append (host : HostState) (rule : FirewallRule) : HostState :=
  { host with
    chains :=
      Function.update host.chains rule.location
        (host.chains rule.location ++ [rule.spec]) }

/-- Delete the first rule of a chain with a specification. -/
def delete (host : HostState) (rule : FirewallRule) : HostState :=
  { host with
    chains :=
      Function.update host.chains rule.location
        ((host.chains rule.location).erase rule.spec) }

end HostState

/-- Delete the rules, and restore the value of `ip_forward` if it was read. -/
def FirewallManager.cleanup
    (firewall : FirewallManager)
    (host : HostState) :
    HostState :=
  let host := firewall.rules.foldl HostState.delete host
  match firewall.originalIpForward with
  | none => host
  | some original => { host with ipForward := original }

/-- `Cleanup::run`. -/
def Cleanup.run
    (cleanup : Cleanup)
    (routes : Host)
    (host : HostState) :
    HostState :=
  let host :=
    { host with
      routes := RouteManager.cleanupRoutes routes host.routes cleanup.routes }
  match cleanup.firewall with
  | none => host
  | some firewall => firewall.cleanup host

namespace Machine

variable (machine : Machine)

/-- A call that changes nothing of the host. -/
def call (call : StartCall) : Starting Unit := fun host =>
  match machine.answers call with
  | .error context => .error ⟨call, context⟩ host
  | .ok () => .ok () host

def newRouter (config : Config) : Starting Router := fun host =>
  match Router.new machine.decodeBase64 machine.toSocketAddrs config with
  | .error error => .error ⟨.newRouter, error.message⟩ host
  | .ok router => .ok router host

/-- `RouteManager::new` and `setup`, which yield the installed routes. -/
def setupRoutes
    (tunName : String)
    (router : Router) :
    Starting (List InstalledRoute) := fun host =>
  match RouteManager.setup machine.routes (.on tunName host.routes) router with
  | (.error error, state) =>
      .error ⟨.setupRoutes, error.context⟩ { host with routes := state.table }
  | (.ok (), state) =>
      .ok state.manager.installed { host with routes := state.table }

/-- The value of `ip_forward`, if it can be read. -/
def readIpForward (host : HostState) : Option String :=
  match machine.answers .readIpForward with
  | .error _ => none
  | .ok () => some host.ipForward

/-- Turn forwarding on, and return what was read before. -/
def enableIpForward : Starting (Option String) := fun host =>
  let originalIpForward := machine.readIpForward host
  if originalIpForward = some "1" then
    .ok originalIpForward host
  else
    match machine.answers .writeIpForward with
    | .error context => .error ⟨.writeIpForward, context⟩ host
    | .ok () => .ok originalIpForward { host with ipForward := "1" }

/-- Append a rule with `iptables -A`, and record it. -/
def addIptablesRule
    (call : StartCall)
    (table : Option String)
    (chain : String)
    (spec : RuleSpec) :
    Starting FirewallRule := fun host =>
  match machine.answers call with
  | .error context => .error ⟨call, context⟩ host
  | .ok () => .ok ⟨⟨table, chain⟩, spec⟩ (host.append ⟨⟨table, chain⟩, spec⟩)

/--
`FirewallManager::new` and `setup`.  When it fails, the manager is gone with
the rules that it has recorded.
-/
def setupFirewall (tunName subnet : String) : Starting FirewallManager := do
  let originalIpForward ← machine.enableIpForward
  let masquerade ←
    machine.addIptablesRule .masquerade (some "nat") "POSTROUTING"
      ["-s", subnet, "!", "-o", tunName, "-j", "MASQUERADE"]
  let forwardIn ←
    machine.addIptablesRule .forwardIn none "FORWARD"
      ["-i", tunName, "-j", "ACCEPT"]
  let forwardOut ←
    machine.addIptablesRule .forwardOut none "FORWARD"
      ["-o", tunName, "-j", "ACCEPT"]
  return {
    tunName
    subnet
    originalIpForward
    rules := [masquerade, forwardIn, forwardOut] }

/-- The firewall of an exit node. -/
def firewallOf
    (config : Config)
    (exitNode : Bool) :
    Starting (Option FirewallManager) :=
  if exitNode then do
    let firewall ←
      machine.setupFirewall config.interface.name
        (subnetCidr config.interface.address)
    return some firewall
  else
    return none

/-- What follows until the worker threads start. -/
def prepare : Starting Unit := do
  machine.call .normalizeShutdownSignalState
  machine.call .newSignals
  machine.call .localAddr
  machine.call .cloneWriter
  machine.call .cloneKeepalive

/-- `tunnel::run` until its worker threads start. -/
def run (config : Config) (exitNode : Bool) : Starting Cleanup := do
  let router ← machine.newRouter config
  machine.call .withRouter
  machine.call .createTun
  machine.call .bindTransport
  let installedRoutes ← machine.setupRoutes config.interface.name router
  let firewall ← machine.firewallOf config exitNode
  machine.prepare
  return { routes := installedRoutes, firewall }

end Machine

/-- The call comes after the routes were set up. -/
def StartCall.isLate : StartCall → Bool
  | .newRouter | .withRouter | .createTun | .bindTransport | .setupRoutes =>
      false
  | _ => true

/-- On an exit node a rule was appended before the call. -/
def StartCall.followsRule : StartCall → Bool
  | .forwardIn | .forwardOut | .normalizeShutdownSignalState | .newSignals
  | .localAddr | .cloneWriter | .cloneKeepalive =>
      true
  | _ => false

namespace Machine

variable
  {machine : Machine}
  {host after : HostState}
  {error : StartError}

theorem call_ok
    {call : StartCall}
    {result : Unit}
    (ran : machine.call call host = .ok result after) :
    after = host := by
  unfold Machine.call at ran
  split at ran
  · cases ran
  · cases ran
    rfl

theorem call_error
    {call : StartCall}
    (failed : machine.call call host = .error error after) :
    error.call = call ∧ after = host := by
  unfold Machine.call at failed
  split at failed
  · cases failed
    exact ⟨rfl, rfl⟩
  · cases failed

theorem newRouter_ok
    {config : Config}
    {router : Router}
    (ran : machine.newRouter config host = .ok router after) :
    Router.new machine.decodeBase64 machine.toSocketAddrs config =
        .ok router ∧
      after = host := by
  unfold newRouter at ran
  split at ran
  · cases ran
  · cases ran
    exact ⟨‹_›, rfl⟩

theorem newRouter_error
    {config : Config}
    (failed : machine.newRouter config host = .error error after) :
    error.call = .newRouter ∧ after = host := by
  unfold newRouter at failed
  split at failed
  · cases failed
    exact ⟨rfl, rfl⟩
  · cases failed

/-- The routes of a router are set up, and nothing else is changed. -/
theorem setupRoutes_ok
    {tunName : String}
    {router : Router}
    {installed : List InstalledRoute}
    (keyed : machine.routes.Keyed)
    (ran :
      machine.setupRoutes tunName router host = .ok installed after) :
    ∃ added,
      after = { host with routes := host.routes ++ added } ∧
        added.map HostRoute.net = router.additions.map Addition.net ∧
        RouteManager.cleanupRoutes machine.routes after.routes installed =
          host.routes := by
  unfold setupRoutes at ran
  split at ran
  · cases ran
  · rename_i state done
    cases ran
    obtain ⟨added, isTable, nets, _, restores⟩ :=
      (RouteManager.setup_all_or_nothing keyed tunName host.routes router).2
        state done
    exact ⟨added, by rw [isTable], nets, restores⟩

/-- Routes that cannot be set up are removed again. -/
theorem setupRoutes_error
    {tunName : String}
    {router : Router}
    (keyed : machine.routes.Keyed)
    (failed :
      machine.setupRoutes tunName router host = .error error after) :
    error.call = .setupRoutes ∧ after = host := by
  unfold setupRoutes at failed
  split at failed
  · rename_i cause state ran
    cases failed
    have restored :=
      ((RouteManager.setup_all_or_nothing keyed tunName host.routes
        router).1 cause state ran).1
    exact ⟨rfl, by rw [restored]⟩
  · cases failed

/-- What is read is the value in force. -/
theorem eq_of_readIpForward
    {value : String}
    (read : machine.readIpForward host = some value) :
    value = host.ipForward := by
  unfold readIpForward at read
  split at read
  · cases read
  · exact (Option.some.inj read).symm

/-- Forwarding is on afterwards, and known if it was read. -/
theorem enableIpForward_ok
    {original : Option String}
    (ran : machine.enableIpForward host = .ok original after) :
    after = { host with ipForward := "1" } ∧
      original = machine.readIpForward host := by
  unfold enableIpForward at ran
  dsimp only at ran
  split at ran
  · rename_i isOn
    cases ran
    have forwards := eq_of_readIpForward isOn
    exact ⟨by rw [forwards], rfl⟩
  · split at ran
    · cases ran
    · cases ran
      exact ⟨rfl, rfl⟩

theorem enableIpForward_error
    (failed : machine.enableIpForward host = .error error after) :
    error.call = .writeIpForward ∧ after = host := by
  unfold enableIpForward at failed
  dsimp only at failed
  split at failed
  · cases failed
  · split at failed
    · cases failed
      exact ⟨rfl, rfl⟩
    · cases failed

theorem addIptablesRule_ok
    {call : StartCall}
    {table : Option String}
    {chain : String}
    {spec : RuleSpec}
    {rule : FirewallRule}
    (ran :
      machine.addIptablesRule call table chain spec host = .ok rule after) :
    rule = ⟨⟨table, chain⟩, spec⟩ ∧ after = host.append rule := by
  unfold addIptablesRule at ran
  split at ran
  · cases ran
  · cases ran
    exact ⟨rfl, rfl⟩

theorem addIptablesRule_error
    {call : StartCall}
    {table : Option String}
    {chain : String}
    {spec : RuleSpec}
    (failed :
      machine.addIptablesRule call table chain spec host =
        .error error after) :
    error.call = call ∧ after = host := by
  unfold addIptablesRule at failed
  split at failed
  · cases failed
    exact ⟨rfl, rfl⟩
  · cases failed

end Machine

namespace HostState

@[simp] theorem routes_append (host : HostState) (rule : FirewallRule) :
    (host.append rule).routes = host.routes :=
  rfl

@[simp] theorem ipForward_append (host : HostState) (rule : FirewallRule) :
    (host.append rule).ipForward = host.ipForward :=
  rfl

theorem chains_append
    (host : HostState)
    (rule : FirewallRule)
    (location : IptablesLocation) :
    (host.append rule).chains location =
      if location = rule.location then
        host.chains location ++ [rule.spec]
      else
        host.chains location := by
  unfold append
  by_cases same : location = rule.location
  · rw [same]
    simp
  · simp [same]

/-- No chain gets shorter. -/
theorem length_le_append
    (host : HostState)
    (rule : FirewallRule)
    (location : IptablesLocation) :
    (host.chains location).length ≤
      ((host.append rule).chains location).length := by
  rw [chains_append]
  split
  · simp
  · exact Nat.le_refl _

/-- The chain of a rule gets longer. -/
theorem length_lt_append (host : HostState) (rule : FirewallRule) :
    (host.chains rule.location).length <
      ((host.append rule).chains rule.location).length := by
  simp [chains_append]

end HostState

namespace HostState

/-- How often a rule is in its chain. -/
def count (host : HostState) (rule : FirewallRule) : Nat :=
  (host.chains rule.location).count rule.spec

@[simp] theorem count_append (host : HostState) (added rule : FirewallRule) :
    (host.append added).count rule =
      host.count rule + if rule = added then 1 else 0 := by
  unfold count
  rw [chains_append]
  obtain ⟨location, spec⟩ := rule
  obtain ⟨addedLocation, addedSpec⟩ := added
  by_cases sameLocation : location = addedLocation
  · by_cases sameSpec : spec = addedSpec
    · simp [sameLocation, sameSpec]
    · simp [sameLocation, sameSpec, Ne.symm sameSpec]
  · simp [sameLocation]

@[simp] theorem count_delete
    (host : HostState)
    (deleted rule : FirewallRule) :
    (host.delete deleted).count rule =
      host.count rule - if rule = deleted then 1 else 0 := by
  unfold count delete
  obtain ⟨location, spec⟩ := rule
  obtain ⟨deletedLocation, deletedSpec⟩ := deleted
  by_cases sameLocation : location = deletedLocation
  · subst sameLocation
    by_cases sameSpec : spec = deletedSpec
    · simp [sameSpec]
    · simp [sameSpec, List.count_erase_of_ne sameSpec]
  · simp [sameLocation]

end HostState

namespace Machine

variable
  {machine : Machine}
  {host after : HostState}
  {error : StartError}

/-- A firewall that is set up has appended its three rules. -/
theorem setupFirewall_ok
    {tunName subnet : String}
    {firewall : FirewallManager}
    (ran : machine.setupFirewall tunName subnet host = .ok firewall after) :
    ∃ masquerade forwardIn forwardOut,
      firewall.rules = [masquerade, forwardIn, forwardOut] ∧
        firewall.originalIpForward = machine.readIpForward host ∧
        after =
          ((({ host with ipForward := "1" } : HostState).append
            masquerade).append forwardIn).append forwardOut := by
  simp only [setupFirewall, bind_eq_ok] at ran
  obtain ⟨_, _, enabled, masquerade, _, first, forwardIn, _, second,
    forwardOut, _, third, done⟩ := ran
  obtain ⟨rfl, rfl⟩ := enableIpForward_ok enabled
  obtain ⟨_, rfl⟩ := addIptablesRule_ok first
  obtain ⟨_, rfl⟩ := addIptablesRule_ok second
  obtain ⟨_, rfl⟩ := addIptablesRule_ok third
  cases done
  exact ⟨_, _, _, rfl, rfl, rfl⟩

/-- A host with more rules in a chain is not the same. -/
theorem ne_of_length_lt
    {location : IptablesLocation}
    (longer :
      (host.chains location).length < (after.chains location).length) :
    after ≠ host := by
  rintro rfl
  exact Nat.lt_irrefl _ longer

/--
A firewall that cannot be set up leaves what it has changed: the forwarding,
if it was off, and the rules that were appended.
-/
theorem setupFirewall_error
    {tunName subnet : String}
    (failed :
      machine.setupFirewall tunName subnet host = .error error after) :
    error.call.isLate = true ∧
      after.routes = host.routes ∧
      (after = host ↔
        error.call.followsRule = false ∧
          (error.call = .writeIpForward ∨ host.ipForward = "1")) := by
  simp only [setupFirewall, bind_eq_error] at failed
  rcases failed with
    notWritten |
    ⟨original, _, enabled, notFirst |
      ⟨masquerade, _, first, notSecond |
        ⟨forwardIn, _, second, notThird | ⟨_, _, _, impossible⟩⟩⟩⟩
  · obtain ⟨isCall, rfl⟩ := enableIpForward_error notWritten
    simp [isCall, StartCall.isLate, StartCall.followsRule]
  · obtain ⟨rfl, _⟩ := enableIpForward_ok enabled
    obtain ⟨isCall, rfl⟩ := addIptablesRule_error notFirst
    simp [isCall, StartCall.isLate, StartCall.followsRule,
      HostState.ext_iff, eq_comm]
  · obtain ⟨rfl, _⟩ := enableIpForward_ok enabled
    obtain ⟨_, rfl⟩ := addIptablesRule_ok first
    obtain ⟨isCall, rfl⟩ := addIptablesRule_error notSecond
    have changed :
        ({ host with ipForward := "1" } : HostState).append masquerade ≠
          host :=
      ne_of_length_lt (HostState.length_lt_append _ masquerade)
    simp [isCall, StartCall.isLate, StartCall.followsRule, changed]
  · obtain ⟨rfl, _⟩ := enableIpForward_ok enabled
    obtain ⟨_, rfl⟩ := addIptablesRule_ok first
    obtain ⟨_, rfl⟩ := addIptablesRule_ok second
    obtain ⟨isCall, rfl⟩ := addIptablesRule_error notThird
    have changed :
        (({ host with ipForward := "1" } : HostState).append
            masquerade).append forwardIn ≠
          host :=
      ne_of_length_lt
        (Nat.lt_of_lt_of_le (HostState.length_lt_append _ masquerade)
          (HostState.length_le_append _ forwardIn masquerade.location))
    simp [isCall, StartCall.isLate, StartCall.followsRule, changed]
  · cases impossible

theorem prepare_ok
    {result : Unit}
    (ran : machine.prepare host = .ok result after) :
    after = host := by
  simp only [prepare, bind_eq_ok] at ran
  obtain ⟨_, _, first, _, _, second, _, _, third, _, _, fourth, fifth⟩ := ran
  obtain rfl := call_ok first
  obtain rfl := call_ok second
  obtain rfl := call_ok third
  obtain rfl := call_ok fourth
  exact call_ok fifth

/-- What is prepared at last changes nothing, and undoes nothing. -/
theorem prepare_error
    (failed : machine.prepare host = .error error after) :
    error.call.isLate = true ∧
      error.call.followsRule = true ∧
      after = host := by
  simp only [prepare, bind_eq_error] at failed
  rcases failed with
    failed |
    ⟨_, _, first, failed |
      ⟨_, _, second, failed |
        ⟨_, _, third, failed | ⟨_, _, fourth, failed⟩⟩⟩⟩
  · obtain ⟨isCall, rfl⟩ := call_error failed
    rw [isCall]
    exact ⟨rfl, rfl, rfl⟩
  · obtain rfl := call_ok first
    obtain ⟨isCall, rfl⟩ := call_error failed
    rw [isCall]
    exact ⟨rfl, rfl, rfl⟩
  · obtain rfl := call_ok first
    obtain rfl := call_ok second
    obtain ⟨isCall, rfl⟩ := call_error failed
    rw [isCall]
    exact ⟨rfl, rfl, rfl⟩
  · obtain rfl := call_ok first
    obtain rfl := call_ok second
    obtain rfl := call_ok third
    obtain ⟨isCall, rfl⟩ := call_error failed
    rw [isCall]
    exact ⟨rfl, rfl, rfl⟩
  · obtain rfl := call_ok first
    obtain rfl := call_ok second
    obtain rfl := call_ok third
    obtain rfl := call_ok fourth
    obtain ⟨isCall, rfl⟩ := call_error failed
    rw [isCall]
    exact ⟨rfl, rfl, rfl⟩

/-- The rest of a start, once the routes are set up. -/
def finish
    (machine : Machine)
    (config : Config)
    (exitNode : Bool)
    (installedRoutes : List InstalledRoute) :
    Starting Cleanup := do
  let firewall ← machine.firewallOf config exitNode
  machine.prepare
  return { routes := installedRoutes, firewall }

/--
A failure of the rest undoes nothing: neither the routes nor, on an exit node,
what was done of the firewall.
-/
theorem finish_error
    {config : Config}
    {exitNode : Bool}
    {installedRoutes : List InstalledRoute}
    (failed :
      machine.finish config exitNode installedRoutes host =
        .error error after) :
    error.call.isLate = true ∧
      after.routes = host.routes ∧
      (after = host ↔
        (exitNode = true →
          error.call.followsRule = false ∧
            (error.call = .writeIpForward ∨ host.ipForward = "1"))) := by
  cases exitNode with
  | false =>
      simp only [finish, firewallOf, Bool.false_eq_true, ↓reduceIte,
        bind_eq_error] at failed
      rcases failed with impossible | ⟨_, _, skipped, notPrepared |
        ⟨_, _, _, impossible⟩⟩
      · cases impossible
      · cases skipped
        obtain ⟨isLate, _, rfl⟩ := prepare_error notPrepared
        exact ⟨isLate, rfl, by simp⟩
      · cases impossible
  | true =>
      simp only [finish, firewallOf, ↓reduceIte, bind_eq_error,
        bind_eq_ok] at failed
      rcases failed with
        (notSetUp | ⟨_, _, _, impossible⟩) |
        ⟨_, _, ⟨_, _, setUp, returned⟩, notPrepared |
          ⟨_, _, _, impossible⟩⟩
      · obtain ⟨isLate, sameRoutes, untouched⟩ :=
          setupFirewall_error notSetUp
        exact ⟨isLate, sameRoutes, by simpa using untouched⟩
      · cases impossible
      · cases returned
        obtain ⟨masquerade, forwardIn, forwardOut, _, _, rfl⟩ :=
          setupFirewall_ok setUp
        obtain ⟨isLate, follows, rfl⟩ := prepare_error notPrepared
        have changed :
            ((({ host with ipForward := "1" } : HostState).append
                masquerade).append forwardIn).append forwardOut ≠
              host :=
          ne_of_length_lt
            (Nat.lt_of_lt_of_le (HostState.length_lt_append _ masquerade)
              (Nat.le_trans
                (HostState.length_le_append _ forwardIn masquerade.location)
                (HostState.length_le_append _ forwardOut
                  masquerade.location)))
        exact ⟨isLate, rfl, by simp [follows, changed]⟩
      · cases impossible

/-- A start that succeeds has set up the routes and, if asked, a firewall. -/
theorem run_eq_ok
    {config : Config}
    {exitNode : Bool}
    {cleanup : Cleanup}
    (keyed : machine.routes.Keyed)
    (started : machine.run config exitNode host = .ok cleanup after) :
    ∃ middle,
      RouteManager.cleanupRoutes machine.routes middle.routes
          cleanup.routes =
        host.routes ∧
      middle.chains = host.chains ∧
      middle.ipForward = host.ipForward ∧
      machine.firewallOf config exitNode middle =
        .ok cleanup.firewall after := by
  simp only [run, bind_eq_ok] at started
  obtain ⟨_, _, made, _, _, engine, _, _, device, _, _, bound, _, _, setUp, _,
    _, firewall, _, _, prepared, done⟩ := started
  obtain ⟨_, rfl⟩ := newRouter_ok made
  obtain rfl := call_ok engine
  obtain rfl := call_ok device
  obtain rfl := call_ok bound
  obtain ⟨added, rfl, _, restores⟩ := setupRoutes_ok keyed setUp
  obtain rfl := prepare_ok prepared
  cases done
  exact ⟨_, restores, rfl, rfl, firewall⟩

/-- A start is its first calls, the routes, and the rest. -/
theorem run_eq_error
    {config : Config}
    {exitNode : Bool}
    (keyed : machine.routes.Keyed)
    (failed : machine.run config exitNode host = .error error after) :
    (error.call.isLate = false ∧ after = host) ∨
      ∃ router installedRoutes added,
        Router.new machine.decodeBase64 machine.toSocketAddrs config =
            .ok router ∧
          added.map HostRoute.net = router.additions.map Addition.net ∧
          machine.finish config exitNode installedRoutes
              { host with routes := host.routes ++ added } =
            .error error after := by
  have early
      {call : StartCall}
      (isEarly : call.isLate = false)
      (stopped : error.call = call ∧ after = host) :
      error.call.isLate = false ∧ after = host :=
    ⟨stopped.1 ▸ isEarly, stopped.2⟩
  rw [run, bind_eq_error] at failed
  rcases failed with failed | ⟨router, _, made, failed⟩
  · exact .inl (early rfl (newRouter_error failed))
  obtain ⟨isRouter, rfl⟩ := newRouter_ok made
  rw [bind_eq_error] at failed
  rcases failed with failed | ⟨_, _, called, failed⟩
  · exact .inl (early rfl (call_error failed))
  obtain rfl := call_ok called
  rw [bind_eq_error] at failed
  rcases failed with failed | ⟨_, _, called, failed⟩
  · exact .inl (early rfl (call_error failed))
  obtain rfl := call_ok called
  rw [bind_eq_error] at failed
  rcases failed with failed | ⟨_, _, called, failed⟩
  · exact .inl (early rfl (call_error failed))
  obtain rfl := call_ok called
  rw [bind_eq_error] at failed
  rcases failed with failed | ⟨installedRoutes, _, setUp, failed⟩
  · exact .inl (early rfl (setupRoutes_error keyed failed))
  obtain ⟨added, rfl, nets, _⟩ := setupRoutes_ok keyed setUp
  exact .inr ⟨router, installedRoutes, added, isRouter, nets, failed⟩

end Machine

/--
The cleanup of a start that succeeded restores the routes, the rules up to
their order, and the forwarding if it could be read.
-/
theorem cleanup_restores
    {machine : Machine}
    {config : Config}
    {exitNode : Bool}
    {before after : HostState}
    {cleanup : Cleanup}
    (keyed : machine.routes.Keyed)
    (started : machine.run config exitNode before = .ok cleanup after) :
    (cleanup.run machine.routes after).routes = before.routes ∧
      (∀ rule, (cleanup.run machine.routes after).count rule =
        before.count rule) ∧
      (machine.answers .readIpForward = .ok () →
        (cleanup.run machine.routes after).ipForward = before.ipForward) := by
  obtain ⟨middle, restores, sameChains, sameForwarding, firewall⟩ :=
    Machine.run_eq_ok keyed started
  have sameCount (rule : FirewallRule) :
      middle.count rule = before.count rule := by
    unfold HostState.count
    rw [sameChains]
  obtain ⟨installed, manager⟩ := cleanup
  cases exitNode with
  | false =>
      simp only [Machine.firewallOf, Bool.false_eq_true, ↓reduceIte]
        at firewall
      cases firewall
      exact ⟨restores, sameCount, fun _ => sameForwarding⟩
  | true =>
      simp only [Machine.firewallOf, ↓reduceIte, bind_eq_ok] at firewall
      obtain ⟨manager, _, setUp, returned⟩ := firewall
      cases returned
      obtain ⟨masquerade, forwardIn, forwardOut, isRules, isOriginal, rfl⟩ :=
        Machine.setupFirewall_ok setUp
      refine ⟨?_, ?_, ?_⟩
      · simp only [Cleanup.run, FirewallManager.cleanup, isRules]
        split <;> exact restores
      · intro rule
        rw [← sameCount rule]
        have restored :
            ((((((middle.append masquerade).append forwardIn).append
              forwardOut).delete masquerade).delete forwardIn).delete
              forwardOut).count rule = middle.count rule := by
          simp only [HostState.count_append, HostState.count_delete]
          omega
        simp only [Cleanup.run, FirewallManager.cleanup, isRules,
          List.foldl_cons, List.foldl_nil]
        split <;> exact restored
      · intro read
        have isRead :
            machine.readIpForward middle = some middle.ipForward := by
          simp [Machine.readIpForward, read]
        simp [Cleanup.run, FirewallManager.cleanup, isOriginal, isRead,
          sameForwarding]

/--
A start that fails leaves the host unchanged exactly where it fails in the
setup of the routes or before, or where nothing had been changed since: the
configuration yields no route, and on an exit node no rule was appended and
forwarding was on or could not be turned on.
-/
theorem failed_start_unchanged_iff
    {machine : Machine}
    {config : Config}
    {exitNode : Bool}
    {before after : HostState}
    {error : StartError}
    (keyed : machine.routes.Keyed)
    (failed : machine.run config exitNode before = .error error after) :
    after = before ↔
      error.call.isLate = false ∨
        ∃ router,
          Router.new machine.decodeBase64 machine.toSocketAddrs config =
              .ok router ∧
            router.additions = [] ∧
            (exitNode = true →
              error.call.followsRule = false ∧
                (error.call = .writeIpForward ∨ before.ipForward = "1")) := by
  rcases Machine.run_eq_error keyed failed with
    ⟨isEarly, unchanged⟩ |
    ⟨router, _, added, isRouter, nets, notFinished⟩
  · exact iff_of_true unchanged (.inl isEarly)
  · obtain ⟨isLate, sameRoutes, untouched⟩ :=
      Machine.finish_error notFinished
    have noneAdded : added = [] ↔ router.additions = [] := by
      rw [← List.map_eq_nil_iff, nets, List.map_eq_nil_iff]
    constructor
    · rintro rfl
      have noRoutes : added = [] := by
        simpa using sameRoutes
      refine .inr ⟨router, isRouter, noneAdded.mp noRoutes, ?_⟩
      rw [noRoutes, List.append_nil] at untouched
      exact untouched.mp rfl
    · rintro (isEarly | ⟨other, isOther, noAdditions, calm⟩)
      · rw [isLate] at isEarly
        cases isEarly
      · cases isRouter.symm.trans isOther
        rw [noneAdded.mpr noAdditions, List.append_nil] at untouched
        exact untouched.mpr calm

end Tunnel

namespace TunnelExample

open Tunnel

/-- A machine on which one of the calls fails. -/
def machine (failing : StartCall) : Machine where
  decodeBase64 := RouteExample.decodeBase64
  toSocketAddrs := RouteExample.toSocketAddrs
  routes := RouteExample.host
  answers := fun call =>
    if call = failing then .error "the command failed" else .ok ()

/-- A host with a default route that does not forward. -/
def before : HostState where
  routes := [RouteExample.defaultRoute]
  chains := fun _ => []
  ipForward := "0"

/-- Where the start of an exit node stops, and what it leaves. -/
def stopped
    (failing : StartCall) :
    Option (StartCall × List HostRoute × String) :=
  match (machine failing).run RouteExample.config true before with
  | .ok _ _ => none
  | .error error after => some (error.call, after.routes, after.ipForward)

theorem exists_of_stopped
    {failing call : StartCall}
    {routes : List HostRoute}
    {ipForward : String}
    (isStopped : stopped failing = some (call, routes, ipForward)) :
    ∃ error after,
      (machine failing).run RouteExample.config true before =
          .error error after ∧
        error.call = call ∧ after.routes = routes ∧
        after.ipForward = ipForward := by
  unfold stopped at isStopped
  split at isStopped
  · cases isStopped
  · rename_i error after ran
    cases isStopped
    exact ⟨error, after, ran, rfl, rfl, rfl⟩

end TunnelExample

namespace Tunnel

open TunnelExample

/-- A transport that cannot be bound leaves the host unchanged. -/
theorem failed_start_unchanged_iff_example :
    ∃ error after,
      (machine .bindTransport).run RouteExample.config true before =
          .error error after ∧
        after = before := by
  obtain ⟨error, after, failed, isCall, _⟩ :=
    exists_of_stopped
      (show stopped .bindTransport =
          some (.bindTransport, before.routes, "0") by decide +kernel)
  refine ⟨error, after, failed, ?_⟩
  refine
    (failed_start_unchanged_iff RouteExample.host_keyed failed).mpr (.inl ?_)
  rw [isCall]
  rfl

/--
The first rule of the firewall cannot be added.  The routes stay installed, an
exception for an endpoint among them, and forwarding stays on.
-/
theorem failed_start_unchanged_counterexample :
    ∃ error after,
      (machine .masquerade).run RouteExample.config true before =
          .error error after ∧
        error.call = .masquerade ∧
        ⟨.ofAddr 0xcb007109, some "192.0.2.1", "en0"⟩ ∈ after.routes ∧
        ⟨.ofAddr 0xcb007109, some "192.0.2.1", "en0"⟩ ∉ before.routes ∧
        before.ipForward = "0" ∧
        after.ipForward = "1" := by
  have isStopped :
      ∃ routes,
        stopped .masquerade = some (.masquerade, routes, "1") ∧
          ⟨.ofAddr 0xcb007109, some "192.0.2.1", "en0"⟩ ∈ routes :=
    ⟨((stopped .masquerade).getD (.masquerade, [], "")).2.1,
      by decide +kernel, by decide +kernel⟩
  obtain ⟨routes, isStopped, member⟩ := isStopped
  obtain ⟨error, after, failed, isCall, isRoutes, isForward⟩ :=
    exists_of_stopped isStopped
  exact ⟨error, after, failed, isCall, isRoutes ▸ member, by decide, rfl,
    isForward⟩

end Tunnel

end HushWire
