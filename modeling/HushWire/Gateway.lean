import HushWire.Config
import HushWire.Library.AssociationMap
import HushWire.Library.Commands

namespace HushWire

/-!
# The forwarding gateway

A plan is applied and removed with `iptables` and `sysctl`, and recorded in
files.  A shell carries the host and numbers the commands that were issued;
which of them fail, without effect, is a parameter.  Files can always be read
and written, and operations of all gateways exclude each other by a lock.

What a failed program prints is left out of the error texts.
-/

open Text (trim)

/-- A chain of rules; without a table it is in the table `filter`. -/
structure IptablesLocation where
  table : Option String
  chain : String
  deriving DecidableEq

/-- The arguments that specify a rule. -/
abbrev RuleSpec := List String

structure IptablesRule where
  table : Option String
  chain : String
  spec : RuleSpec
  description : String
  deriving DecidableEq

def IptablesRule.location (rule : IptablesRule) : IptablesLocation where
  table := rule.table
  chain := rule.chain

structure GatewayPlan where
  lanInterface : String
  tunnelInterface : String
  tunnelMtu : UInt16
  tcpMss : UInt16
  tcpMssIsExplicit : Bool
  ownerTag : String
  rules : List IptablesRule
  deriving DecidableEq

/-- What the gateway reads and writes of a host and a network namespace. -/
@[ext] structure GatewayHost where
  isRoot : Bool
  /-- The interfaces with their MTU. -/
  interfaceMtu : String → Option UInt16
  namespaceId : Option String
  /-- How `iptables -S` prints a specification. -/
  printed : RuleSpec → String
  policies : IptablesLocation → String
  chains : IptablesLocation → List RuleSpec
  ipForward : String
  /-- The contents of the markers, by their tunnel interface. -/
  markers : AssociationMap String String
  originalForwarding : Option String

/-- A host with the number of the commands issued so far. -/
structure Shell where
  host : GatewayHost
  issued : Nat

abbrev Command := EStateM String Shell

def ipv4MinimumTcpMss : UInt16 := 536

def ipv4TcpHeaderBytes : UInt16 := 40

namespace GatewayPlan

/-- The part of every specification that names the owner. -/
def comment (ownerTag : String) : RuleSpec :=
  ["-m", "comment", "--comment", ownerTag]

/-- Clamp the segment size of connections from one interface to the other. -/
def mssSpec
    (input output ownerTag : String)
    (tcpMss : UInt16) :
    RuleSpec :=
  ["-i", input, "-o", output, "-p", "tcp", "--tcp-flags", "SYN,RST", "SYN"] ++
    comment ownerTag ++ ["-j", "TCPMSS", "--set-mss", toString tcpMss]

def fromConfig (config : Config) : Except String GatewayPlan :=
  match config.gateway with
  | none =>
      .error
        ("configuration has no [gateway] section; ordinary clients must " ++
          "not manage forwarding")
  | some gateway =>
      let tunnelMtu := config.interface.mtu
      if tunnelMtu < ipv4TcpHeaderBytes then
        .error "tunnel MTU is too small to derive an IPv4 TCP MSS"
      else
        let maximumMss := tunnelMtu - ipv4TcpHeaderBytes
        let tcpMss := gateway.tcpMss.getD maximumMss
        if ¬ (ipv4MinimumTcpMss ≤ tcpMss ∧ tcpMss ≤ maximumMss) then
          .error
            (s!"TCP MSS {tcpMss} is outside the safe range " ++
              s!"{ipv4MinimumTcpMss}..={maximumMss} for tunnel MTU " ++
              s!"{tunnelMtu}")
        else
          let lanInterface := trim gateway.lanInterface
          let tunnelInterface := config.interface.name
          let ownerTag := "hushwire-gateway:" ++ tunnelInterface
          let masquerade :=
            ["-o", tunnelInterface] ++ comment ownerTag ++
              ["-j", "MASQUERADE"]
          let allowOutbound :=
            ["-i", lanInterface, "-o", tunnelInterface] ++
              comment ownerTag ++ ["-j", "ACCEPT"]
          let allowReturn :=
            ["-i", tunnelInterface, "-o", lanInterface, "-m", "conntrack",
                "--ctstate", "RELATED,ESTABLISHED"] ++
              comment ownerTag ++ ["-j", "ACCEPT"]
          .ok
            { lanInterface
              tunnelInterface
              tunnelMtu
              tcpMss
              tcpMssIsExplicit := gateway.tcpMss.isSome
              ownerTag
              rules :=
                [⟨some "mangle", "FORWARD",
                    mssSpec lanInterface tunnelInterface ownerTag tcpMss,
                    "LAN to tunnel TCP MSS"⟩,
                  ⟨some "mangle", "FORWARD",
                    mssSpec tunnelInterface lanInterface ownerTag tcpMss,
                    "tunnel to LAN TCP MSS"⟩,
                  ⟨some "nat", "POSTROUTING", masquerade,
                    "tunnel masquerade"⟩,
                  ⟨none, "FORWARD", allowOutbound,
                    "LAN to tunnel forwarding"⟩,
                  ⟨none, "FORWARD", allowReturn,
                    "established return forwarding"⟩] }

end GatewayPlan

def ownedRuleLocations : List IptablesLocation :=
  [⟨some "mangle", "FORWARD"⟩, ⟨some "nat", "POSTROUTING"⟩, ⟨none, "FORWARD"⟩]

/-- White space of ASCII as `split_ascii_whitespace` knows it. -/
def isAsciiWhitespace (character : Char) : Bool :=
  character = ' ' || character = '\t' || character = '\n' ||
    character = '\x0C' || character = '\r'

def isQuote (character : Char) : Bool :=
  character = '\'' || character = '"'

/-- The words of a line, without the quotes around them. -/
def iptablesTokens (line : String) : List String :=
  ((line.toList.splitOnP isAsciiWhitespace).filter (· ≠ [])).map fun token =>
    .ofList (Text.trimList isQuote token)

def iptablesLineHasOwner (line ownerTag : String) : Bool :=
  let tokens := iptablesTokens line
  (tokens.zip tokens.tail).any fun pair =>
    pair.1 = "--comment" && pair.2 = ownerTag

/-- `line.starts_with("-A ")`. -/
def isRuleLine (line : String) : Bool :=
  ['-', 'A', ' '].isPrefixOf line.toList

/-- An argument of a rule as `iptables -S` prints it. -/
inductive Argument where
  /-- An option, an interface, an address: printed as it is. -/
  | word (text : String)
  /-- A text of any characters, such as a comment. -/
  | quoted (text : String)
  deriving DecidableEq

namespace Argument

/-- The characters of a text that needs no quotes. -/
def isPlain (character : Char) : Bool :=
  character.isAlphanum || character = '_' || character = '-'

/-- A quote or a backslash has a backslash before it. -/
def escape (character : Char) : List Char :=
  if character = '"' ∨ character = '\\' ∨ character = '\'' then
    ['\\', character]
  else
    [character]

def print : Argument → List Char
  | .word text => text.toList
  | .quoted text =>
      if text ≠ "" ∧ text.toList.all isPlain then
        text.toList
      else
        '"' :: text.toList.flatMap escape ++ ['"']

end Argument

namespace GatewayHost

/-- The line of `iptables -S` for a rule. -/
def ruleLine
    (host : GatewayHost)
    (location : IptablesLocation)
    (spec : RuleSpec) :
    String :=
  "-A " ++ location.chain ++ " " ++ host.printed spec

/-- The line of `iptables -S` for the policy of a chain. -/
def policyLine (host : GatewayHost) (location : IptablesLocation) : String :=
  "-P " ++ location.chain ++ " " ++ host.policies location

/-- What `iptables -S` prints. -/
def chainLines
    (host : GatewayHost)
    (location : IptablesLocation) :
    List String :=
  host.policyLine location ::
    (host.chains location).map (host.ruleLine location)

/-- Replace the rules of a chain. -/
def setChain
    (host : GatewayHost)
    (location : IptablesLocation)
    (rules : List RuleSpec) :
    GatewayHost :=
  { host with chains := Function.update host.chains location rules }

end GatewayHost

section Commands

variable (fails : Nat → Bool)

/-- Issue a command, which fails without effect or changes the host. -/
def issue
    (failure : String)
    (effect : GatewayHost → GatewayHost) :
    Command Unit := fun shell =>
  if fails shell.issued then
    .error failure { shell with issued := shell.issued + 1 }
  else
    .ok () { host := effect shell.host, issued := shell.issued + 1 }

/-- Read something of the host. -/
def examine {Value : Type} (value : GatewayHost → Value) : Command Value :=
  fun shell => .ok (value shell.host) shell

/-- Write something of the host other than by a command. -/
def modifyHost (effect : GatewayHost → GatewayHost) : Command Unit :=
  fun shell => .ok () { shell with host := effect shell.host }

def ensureLinuxRoot : Command Unit := do
  if !(← examine GatewayHost.isRoot) then
    throw "gateway apply/remove must run as root"

def ensureIptablesAvailable : Command Unit :=
  issue fails "iptables is unavailable or failed its version check" id

def readIpForward : Command String :=
  examine GatewayHost.ipForward

def writeIpForward (value : String) : Command Unit :=
  issue fails "sysctl failed: " fun host => { host with ipForward := value }

def listIptablesChain (location : IptablesLocation) :
    Command (List String) := do
  issue fails ("could not list iptables chain " ++ location.chain ++ ": ") id
  examine fun host => host.chainLines location

def deleteIptablesRuleNumber
    (location : IptablesLocation)
    (ruleNumber : Nat) :
    Command Unit :=
  issue fails
    (s!"could not delete owned rule {ruleNumber} from iptables chain " ++
      location.chain ++ ": ")
    fun host =>
      host.setChain location
        ((host.chains location).eraseIdx (ruleNumber - 1))

namespace IptablesRule

/-- The command for an action on the rule, as errors show it. -/
def render (rule : IptablesRule) (action : String) : String :=
  " ".intercalate
    (["iptables", "--wait", "5"] ++
      (rule.table.elim [] fun table => ["-t", table]) ++
      [action, rule.chain] ++ rule.spec)

/-- `iptables -C`. -/
def present (rule : IptablesRule) (host : GatewayHost) : Bool :=
  rule.spec ∈ host.chains rule.location

def exists? (rule : IptablesRule) : Command Bool := do
  issue fails (rule.render "-C" ++ " failed: ") id
  examine rule.present

def addIfMissing (rule : IptablesRule) : Command Bool := do
  if ← rule.exists? fails then
    return false
  issue fails (rule.render "-A" ++ " failed: ") fun host =>
    host.setChain rule.location (host.chains rule.location ++ [rule.spec])
  return true

/-- `iptables -D` with a specification, which fails where no rule has it. -/
def deleteOnce (rule : IptablesRule) : Command Unit := do
  let failure := rule.render "-D" ++ " failed: "
  if ← examine rule.present then
    issue fails failure fun host =>
      host.setChain rule.location
        ((host.chains rule.location).erase rule.spec)
  else
    issue fails failure id
    throw failure

end IptablesRule

namespace GatewayPlan

variable (plan : GatewayPlan)

def preflightInterfaces : Command Unit := do
  forM [plan.lanInterface, plan.tunnelInterface] fun interface => do
    if (← examine fun host => host.interfaceMtu interface).isNone then
      throw s!"network interface {interface} does not exist"
  match ← examine fun host => host.interfaceMtu plan.tunnelInterface with
  | none => throw ("reading interface MTU of " ++ plan.tunnelInterface)
  | some actualMtu =>
      if actualMtu ≠ plan.tunnelMtu then
        throw
          (s!"tunnel interface {plan.tunnelInterface} has MTU {actualMtu}, " ++
            s!"but configuration expects {plan.tunnelMtu}; refusing to " ++
            "install an unsafe MSS")

/-- Count the lines of the owner in a chain, and those of other chains. -/
def countOwnedRulesIn
    (count : Nat)
    (location : IptablesLocation) :
    Command Nat := do
  let lines ← listIptablesChain fails location
  return count +
    lines.countP fun line => iptablesLineHasOwner line plan.ownerTag

def countOwnedRules : Command Nat :=
  ownedRuleLocations.foldlM (plan.countOwnedRulesIn fails) 0

/-- The number of the first rule of the owner, after some rules of others. -/
def ownedRuleNumber (others : Nat) : List String → Option Nat
  | [] => none
  | line :: lines =>
      if !isRuleLine line then
        ownedRuleNumber others lines
      else if iptablesLineHasOwner line plan.ownerTag then
        some (others + 1)
      else
        ownedRuleNumber (others + 1) lines

/-- Delete the first rule of the owner in a chain, if there is one. -/
def deleteFirstOwnedRule (location : IptablesLocation) : Command Bool := do
  match plan.ownedRuleNumber 0 (← listIptablesChain fails location) with
  | none => return false
  | some ruleNumber =>
      deleteIptablesRuleNumber fails location ruleNumber
      return true

/--
The loop over one chain.  It is given how many removals are still allowed
before it refuses, and returns how many are left.
-/
def deleteOwnedRulesIn (location : IptablesLocation) : Nat → Command Nat
  | 0 => do
      if ← plan.deleteFirstOwnedRule fails location then
        throw "refusing to remove more than 128 owned gateway rules"
      return 0
  | allowed + 1 => do
      if ← plan.deleteFirstOwnedRule fails location then
        deleteOwnedRulesIn location allowed
      else
        return allowed + 1

/-- Delete the rules of the owner, and return how many there were. -/
def deleteOwnedRules : Command Nat := do
  let allowed ←
    ownedRuleLocations.foldlM
      (fun allowed location => plan.deleteOwnedRulesIn fails location allowed)
      128
  return 128 - allowed

/-- The contents of the marker of a plan. -/
def markerContents (namespaceId : String) : String :=
  s!"version=1\nnamespace={namespaceId}\n" ++
    s!"lan_interface={plan.lanInterface}\n" ++
    s!"tunnel_interface={plan.tunnelInterface}\n" ++
    s!"tunnel_mtu={plan.tunnelMtu}\n" ++
    s!"tcp_mss={plan.tcpMss}\n"

/-- `GatewayStatePaths::new`, which yields the name of the namespace. -/
def statePaths : Command String := do
  match ← examine GatewayHost.namespaceId with
  | none => throw "could not identify current network namespace"
  | some namespaceId => return namespaceId

/-- Record the value, unless one is recorded; says whether it was. -/
def recordOriginalForwarding (value : String) : Command Bool := do
  if (← examine GatewayHost.originalForwarding).isSome then
    return false
  modifyHost fun host => { host with originalForwarding := some (value ++ "\n") }
  return true

/-- Write the marker; says whether it is new. -/
def recordGateway (namespaceId : String) : Command Bool := do
  let isNew ←
    examine fun host => (host.markers.lookup plan.tunnelInterface).isNone
  modifyHost fun host =>
    { host with
      markers :=
        host.markers.insert plan.tunnelInterface
          (plan.markerContents namespaceId) }
  return isNew

def removeMarker : Command Unit :=
  modifyHost fun host =>
    { host with markers := host.markers.erase plan.tunnelInterface }

def removeOriginalForwarding : Command Unit :=
  modifyHost fun host => { host with originalForwarding := none }

def hasGatewayMarkers : Command Bool :=
  examine fun host => host.markers.entries ≠ []

/-- The rules of the plan are there and the owner has no others. -/
def reconcile : Command Unit := do
  let expectedRulesPresent :=
    (← plan.rules.mapM (IptablesRule.exists? fails)).all id
  let ownedRuleCount ← plan.countOwnedRules fails
  if !expectedRulesPresent || ownedRuleCount ≠ plan.rules.length then
    discard (plan.deleteOwnedRules fails)

/--
Add the rules that are missing to those that were added.  A failure is a
value here: the rules added before are to be deleted again.
-/
def addRules :
    List IptablesRule →
      List IptablesRule →
        Command (Except String Unit × List IptablesRule)
  | [], added => pure (.ok (), added)
  | rule :: rules, added => fun shell =>
      match rule.addIfMissing fails shell with
      | .error error shell => .ok (.error error, added) shell
      | .ok true shell => addRules rules (added ++ [rule]) shell
      | .ok false shell => addRules rules added shell

/-- The changes of the system, with the rules added before a failure. -/
def changeSystem
    (forwardingBefore : String) :
    Command (Except String Unit × List IptablesRule) := fun shell =>
  match plan.reconcile fails shell with
  | .error error shell => .ok (.error error, []) shell
  | .ok () shell =>
      match addRules fails plan.rules [] shell with
      | .ok (.ok (), added) shell =>
          if forwardingBefore ≠ "1" then
            match writeIpForward fails "1" shell with
            | .error error shell => .ok (.error error, added) shell
            | .ok () shell => .ok (.ok (), added) shell
          else
            .ok (.ok (), added) shell
      | failed => failed

/-- Carry out a command whose failure is ignored. -/
def ignoreFailure (command : Command Unit) : Command Unit := fun shell =>
  .ok () (Commands.reached (command shell))

/-- Delete rules, whether it succeeds or not. -/
def deleteRules (rules : List IptablesRule) : Command Unit :=
  forM rules fun rule => ignoreFailure (rule.deleteOnce fails)

/-- Restore the value that was recorded for no gateway. -/
def forgetOriginalForwarding (forwardingBefore : String) : Command Unit := do
  if ← hasGatewayMarkers then
    pure ()
  else
    ignoreFailure (writeIpForward fails forwardingBefore)
    removeOriginalForwarding

/-- Undo what a failed `apply` has done. -/
def rollBack
    (forwardingBefore : String)
    (added : List IptablesRule)
    (markerCreated originalCreated : Bool) :
    Command Unit := do
  deleteRules fails added.reverse
  if markerCreated then
    plan.removeMarker
  if originalCreated then
    forgetOriginalForwarding fails forwardingBefore

def apply : Command Unit := do
  ensureLinuxRoot
  plan.preflightInterfaces
  ensureIptablesAvailable fails
  let namespaceId ← statePaths
  let forwardingBefore ← readIpForward
  let originalCreated ← recordOriginalForwarding forwardingBefore
  let markerCreated ← plan.recordGateway namespaceId
  let (result, added) ← plan.changeSystem fails forwardingBefore
  match result with
  | .ok () => pure ()
  | .error error =>
      plan.rollBack fails forwardingBefore added markerCreated originalCreated
      throw
        ("gateway apply rolled back after a failed system change: " ++ error)

/-- Restore the value recorded before the first gateway, after the last one. -/
def restoreForwarding : Command Unit := do
  match ← examine GatewayHost.originalForwarding with
  | none => pure ()
  | some contents =>
      if !(← hasGatewayMarkers) then
        let original := trim contents
        if original = "0" ∨ original = "1" then
          writeIpForward fails original
        removeOriginalForwarding

def remove : Command Unit := do
  ensureLinuxRoot
  ensureIptablesAvailable fails
  discard statePaths
  discard (plan.deleteOwnedRules fails)
  plan.removeMarker
  restoreForwarding fails

end GatewayPlan

end Commands

/-- Carry out an operation: its error, if it fails, and the host after it. -/
def GatewayHost.run
    (host : GatewayHost)
    (operation : Command Unit) :
    Except String Unit × GatewayHost :=
  match operation { host, issued := 0 } with
  | .ok () shell => (.ok (), shell.host)
  | .error error shell => (.error error, shell.host)

end HushWire
