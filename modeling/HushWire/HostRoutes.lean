import HushWire.Router

namespace HushWire

/-!
# Routes installed on the host

`RouteManager.setup` adds the exclusions, the exceptions for captured
endpoints and the tunnel's routes to the host's routing table, and removes
what it added when an addition fails.  The host itself is a parameter: it
decides whether an addition succeeds and which route an address has now.
-/

/-- Two prefixes cover the same addresses. -/
def Ipv4Net.Same (first second : Ipv4Net) : Prop :=
  first.prefixLen = second.prefixLen ∧ first.network = second.network

instance (first second : Ipv4Net) : Decidable (first.Same second) :=
  inferInstanceAs (Decidable (_ ∧ _))

/-- The prefix of one address. -/
def Ipv4Net.ofAddr (address : Ipv4Addr) : Ipv4Net :=
  ⟨address, 32⟩

inductive RouteKind where
  | tun
  | endpointException
  | excludedPrefix
  deriving DecidableEq

/-- An installed route, whose text is read as the prefix it denotes. -/
structure InstalledRoute where
  kind : RouteKind
  spec : Ipv4Net
  tunName : String
  deriving DecidableEq

/-- An entry of the host's routing table. -/
structure HostRoute where
  net : Ipv4Net
  gateway : Option String
  device : String
  deriving DecidableEq

/-- The entry that longest-prefix matching selects. -/
def HostRoute.select
    (table : List HostRoute)
    (destination : Ipv4Addr) :
    Option HostRoute :=
  LongestMatch.select
    (fun entry address => entry.net.contains address)
    (fun entry => entry.net.prefixLen.val)
    table destination

/--
The answers of the host, each of which may depend on the entries that were
added so far.  An addition is made once for each of these states, so any
sequence of outcomes is possible.
-/
structure Host where
  add : List HostRoute → HostRoute → Except String Unit
  delete : List HostRoute → InstalledRoute → Except String Unit
  getRouteInfo :
    List HostRoute → Ipv4Addr → Except String (Option String × String)

/--
A prefix that is present is not added again, and the routes of the physical
network do not lead into the tunnel.
-/
structure Host.Lawful (host : Host) (tunName : String) : Prop where
  present :
    ∀ table route,
      (∃ entry ∈ table, entry.net.Same route.net) →
      host.add table route ≠ .ok ()
  physical :
    ∀ table address gateway device,
      host.getRouteInfo table address = .ok (gateway, device) →
      device ≠ tunName

/-- An error with the text of what failed. -/
structure RouteError where
  context : String
  source : String
  deriving DecidableEq

structure RouteManager where
  tunName : String
  installed : List InstalledRoute
  deriving DecidableEq

/-- The manager and the entries it has added to the table. -/
structure Installation where
  manager : RouteManager
  table : List HostRoute
  deriving DecidableEq

namespace Installation

def new (tunName : String) : Installation where
  manager := { tunName, installed := [] }
  table := []

/-- Record an entry that was added. -/
def push
    (state : Installation)
    (entry : HostRoute)
    (route : InstalledRoute) :
    Installation where
  manager :=
    { state.manager with
      installed := state.manager.installed ++ [route] }
  table := state.table ++ [entry]

variable (host : Host)

/-- Add an entry and record it. -/
def add
    (state : Installation)
    (entry : HostRoute)
    (route : InstalledRoute)
    (context : String) :
    Except RouteError Installation :=
  match host.add state.table entry with
  | .error source => .error ⟨context, source⟩
  | .ok () => .ok (state.push entry route)

def addTunRoute
    (state : Installation)
    (net : Ipv4Net) :
    Except RouteError Installation :=
  state.add host
    ⟨net, none, state.manager.tunName⟩
    ⟨.tun, net, state.manager.tunName⟩
    s!"add route {net.text} dev {state.manager.tunName}"

def addEndpointException
    (state : Installation)
    (ip : Ipv4Addr) :
    Except RouteError Installation :=
  let text := Ipv4Addr.text ip
  match host.getRouteInfo state.table ip with
  | .ok (some gateway, device) =>
      state.add host
        ⟨.ofAddr ip, some gateway, device⟩
        ⟨.endpointException, .ofAddr ip, state.manager.tunName⟩
        s!"add endpoint exception for {text} via {gateway}"
  | .ok (none, device) =>
      state.add host
        ⟨.ofAddr ip, none, device⟩
        ⟨.endpointException, .ofAddr ip, state.manager.tunName⟩
        s!"add endpoint exception for {text} on {device}"
  | .error source =>
      .error
        ⟨s!"determine physical route before excluding endpoint {text}",
          source⟩

/-- The first host of a prefix, whose route is queried. -/
def probe (net : Ipv4Net) : Ipv4Addr :=
  if net.prefixLen = 32 then
    net.network
  else if net.network = BitVec.allOnes 32 then
    net.network
  else
    net.network + 1

def addPrefixException
    (state : Installation)
    (net : Ipv4Net) :
    Except RouteError Installation :=
  match host.getRouteInfo state.table (probe net) with
  | .error source =>
      .error
        ⟨s!"determine physical route before excluding {net.text}", source⟩
  | .ok (some gateway, device) =>
      state.add host
        ⟨net, some gateway, device⟩
        ⟨.excludedPrefix, net, device⟩
        s!"add direct-route exclusion {net.text} via {gateway}"
  | .ok (none, device) =>
      state.add host
        ⟨net, none, device⟩
        ⟨.excludedPrefix, net, device⟩
        s!"add direct-route exclusion {net.text} on {device}"

end Installation

/-- One of the additions that make up a setup. -/
inductive Addition where
  | prefixException (net : Ipv4Net)
  | endpointException (ip : Ipv4Addr)
  | tunRoute (net : Ipv4Net)

namespace Addition

def perform
    (host : Host)
    (state : Installation) :
    Addition → Except RouteError Installation
  | .prefixException net => state.addPrefixException host net
  | .endpointException ip => state.addEndpointException host ip
  | .tunRoute net => state.addTunRoute host net

/-- The prefix that is added. -/
def net : Addition → Ipv4Net
  | .prefixException net => net
  | .endpointException ip => .ofAddr ip
  | .tunRoute net => net

/-- The addition is a route of the tunnel. -/
def isTun : Addition → Bool
  | .tunRoute _ => true
  | _ => false

end Addition

/-- The routes of a prefix, of which the default route has two. -/
def Ipv4Net.tunRoutes (net : Ipv4Net) : List Ipv4Net :=
  if net.prefixLen = 0 then
    [⟨0x00000000, 1⟩, ⟨0x80000000, 1⟩]
  else
    [net]

namespace Router

/-- The excluded prefixes, each once. -/
def prefixExceptions (router : Router) : List Ipv4Net :=
  (router.excludedRoutes.map ExcludedRoute.net).eraseDups

/-- The addresses of the endpoints that would be captured. -/
def endpointExceptions (router : Router) : List Ipv4Addr :=
  router.endpointExceptionPeers.filterMap fun peer =>
    peer.endpoint.ip.toIpv4?

/-- The additions of a setup in the order in which its loops make them. -/
def additions (router : Router) : List Addition :=
  router.prefixExceptions.map .prefixException ++
    (router.endpointExceptions.map .endpointException ++
      (router.routes.flatMap fun route => route.net.tunRoutes).map .tunRoute)

end Router

namespace RouteManager

variable (host : Host)

/-- Make the additions up to the first that fails. -/
def setupInner
    (state : Installation) :
    List Addition → Except RouteError Unit × Installation
  | [] => (.ok (), state)
  | addition :: rest =>
      match addition.perform host state with
      | .error error => (.error error, state)
      | .ok next => setupInner next rest

/-- Remove routes, the last one first; a failure is only logged. -/
def cleanupRoutes
    (table : List HostRoute)
    (routes : List InstalledRoute) :
    List HostRoute :=
  routes.foldr
    (fun route table =>
      match host.delete table route with
      | .error _ => table
      | .ok () =>
          table.filter fun entry => !decide (entry.net.Same route.spec))
    table

/-- A setup that fails removes what it has added. -/
def setup
    (state : Installation)
    (router : Router) :
    Except RouteError Unit × Installation :=
  match setupInner host state router.additions with
  | (.ok (), state) => (.ok (), state)
  | (.error error, state) =>
      (.error error,
        { manager := { state.manager with installed := [] }
          table :=
            cleanupRoutes host state.table state.manager.installed })

end RouteManager

section Installed

variable {host : Host}

/-- A successful addition is one new entry. -/
theorem Installation.add_ok
    {state next : Installation}
    {entry : HostRoute}
    {route : InstalledRoute}
    {context : String}
    (lawful : host.Lawful state.manager.tunName)
    (added : state.add host entry route context = .ok next) :
    next = state.push entry route ∧
      ∀ other ∈ state.table, ¬ other.net.Same entry.net := by
  unfold Installation.add at added
  cases outcome : host.add state.table entry with
  | error source =>
      rw [outcome] at added
      cases added
  | ok result =>
      rw [outcome] at added
      refine ⟨(Except.ok.inj added).symm, fun other member same => ?_⟩
      exact lawful.present _ _ ⟨other, member, same⟩ outcome

/-- The entry is the addition's, and leads into the tunnel where it should. -/
theorem Addition.perform_ok
    {state next : Installation}
    {addition : Addition}
    (lawful : host.Lawful state.manager.tunName)
    (performed : addition.perform host state = .ok next) :
    ∃ entry,
      next.table = state.table ++ [entry] ∧
      next.manager.tunName = state.manager.tunName ∧
      entry.net = addition.net ∧
      (entry.device = state.manager.tunName ↔ addition.isTun = true) ∧
      ∀ other ∈ state.table, ¬ other.net.Same addition.net := by
  have physicalEntry {address gateway device net route context}
      (info :
        host.getRouteInfo state.table address = .ok (gateway, device))
      (added :
        state.add host ⟨net, gateway, device⟩ route context = .ok next) :
      ∃ entry,
        next.table = state.table ++ [entry] ∧
        next.manager.tunName = state.manager.tunName ∧
        entry.net = net ∧
        (entry.device = state.manager.tunName ↔ false = true) ∧
        ∀ other ∈ state.table, ¬ other.net.Same net := by
    obtain ⟨rfl, fresh⟩ := Installation.add_ok lawful added
    exact ⟨_, rfl, rfl, rfl,
      iff_of_false (lawful.physical _ _ _ _ info) Bool.false_ne_true, fresh⟩
  cases addition with
  | prefixException net =>
      simp only [Addition.perform, Installation.addPrefixException]
        at performed
      split at performed
      · cases performed
      · exact physicalEntry ‹_› performed
      · exact physicalEntry ‹_› performed
  | endpointException ip =>
      simp only [Addition.perform, Installation.addEndpointException]
        at performed
      split at performed
      · exact physicalEntry ‹_› performed
      · exact physicalEntry ‹_› performed
      · cases performed
  | tunRoute net =>
      obtain ⟨rfl, fresh⟩ := Installation.add_ok lawful performed
      exact ⟨_, rfl, rfl, rfl, iff_of_true rfl rfl, fresh⟩

/-- No two entries have the same prefix. -/
def HostRoute.Distinct (table : List HostRoute) : Prop :=
  table.Pairwise fun first second => ¬ first.net.Same second.net

/--
Successful additions leave their prefixes in the table, in their order, each
leading into the tunnel exactly where it should.
-/
theorem RouteManager.setupInner_ok
    {state final : Installation}
    {additions : List Addition}
    (lawful : host.Lawful state.manager.tunName)
    (done : setupInner host state additions = (.ok (), final))
    (distinct : HostRoute.Distinct state.table) :
    HostRoute.Distinct final.table ∧
      ∃ entries,
        final.table = state.table ++ entries ∧
        List.Forall₂
          (fun entry addition =>
            entry.net = addition.net ∧
              (entry.device = state.manager.tunName ↔
                addition.isTun = true))
          entries additions := by
  induction additions generalizing state with
  | nil =>
      cases done
      exact ⟨distinct, [], (List.append_nil _).symm, .nil⟩
  | cons addition rest inductionHypothesis =>
      unfold setupInner at done
      cases performed : addition.perform host state with
      | error error =>
          rw [performed] at done
          cases done
      | ok next =>
          rw [performed] at done
          obtain ⟨entry, table, sameTun, isNet, isTun, fresh⟩ :=
            Addition.perform_ok lawful performed
          have nextDistinct : HostRoute.Distinct next.table := by
            rw [HostRoute.Distinct, table, List.pairwise_append]
            refine ⟨distinct, List.pairwise_singleton _ _, ?_⟩
            intro other member added isEntry
            rw [List.mem_singleton.mp isEntry, isNet]
            exact fresh other member
          obtain ⟨finalDistinct, entries, finalTable, each⟩ :=
            inductionHypothesis (sameTun.symm ▸ lawful) done nextDistinct
          refine ⟨finalDistinct, entry :: entries, ?_,
            .cons ⟨isNet, isTun⟩ (sameTun ▸ each)⟩
          rw [finalTable, table, List.append_assoc, List.singleton_append]

end Installed

end HushWire
