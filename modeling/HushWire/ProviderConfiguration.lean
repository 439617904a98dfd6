import HushWire.Library.AssociationMap
import HushWire.PlainFoundation

namespace HushWire.PacketTunnel

/-!
# The provider configuration

The app saves a dictionary of settings with the system, and the packet tunnel
reads it back when it is started.  `configureManager` is the writer on iOS,
and `validateStart` makes the reader's checks, up to the point where the
configuration itself is installed or awaited.  What is saved is accepted
unless the routes are split, which the reader only accepts in an older schema.

The identifiers of profiles and the Keychain are parameters.
-/

open Checked (ensure require bind_eq_ok ensure_eq_ok require_eq_ok)

inductive Platform where
  | iOS
  | macOS
  deriving DecidableEq

/-- A value of a dictionary of settings. -/
inductive PropertyValue where
  | string (text : String)
  | number (value : Int)
  | boolean (value : Bool)
  | strings (texts : List String)
  deriving DecidableEq

namespace PropertyValue

/-- `as? String`. -/
def asString : PropertyValue → Option String
  | .string text => some text
  | _ => none

/-- `as? [String]`. -/
def asStrings : PropertyValue → Option (List String)
  | .strings texts => some texts
  | _ => none

/-- `(as? NSNumber)?.intValue`, where a truth value is a number too. -/
def intValue : PropertyValue → Option Int
  | .number value => some value
  | .boolean value => some (if value then 1 else 0)
  | _ => none

/-- `(as? NSNumber)?.boolValue`. -/
def boolValue : PropertyValue → Option Bool
  | .number value => some (value ≠ 0)
  | .boolean value => some value
  | _ => none

end PropertyValue

/-- The settings by their keys. -/
abbrev ProviderConfiguration := AssociationMap String PropertyValue

/-- A dictionary written out. -/
def ProviderConfiguration.ofSettings
    (settings : List (String × PropertyValue)) :
    ProviderConfiguration :=
  settings.foldr
    (fun setting dictionary => dictionary.insert setting.1 setting.2) ∅

/-- The first setting of a key counts. -/
theorem ProviderConfiguration.lookup_ofSettings
    (settings : List (String × PropertyValue))
    (key : String) :
    (ofSettings settings).lookup key = List.lookup key settings := by
  induction settings with
  | nil =>
      rfl
  | cons setting rest inductionHypothesis =>
      obtain ⟨first, value⟩ := setting
      rw [ofSettings, List.foldr_cons, ← ofSettings, List.lookup_cons]
      by_cases isFirst : key = first
      · subst isFirst
        rw [AList.lookup_insert, beq_self_eq_true]
      · rw [AList.lookup_insert_ne isFirst, beq_eq_false_iff_ne.mpr isFirst,
          inductionHypothesis]

namespace ConfigurationStore

def providerStorageKind : Platform → String
  | .iOS => "shared-keychain-v1"
  | .macOS => "app-group-v1"

def legacyProviderStorageKind : String := "app-message-v1"

def activeProfileIDKey : String := "activeProfileID"

def onDemandStartAuthorizedKey : String := "onDemandStartAuthorized"

end ConfigurationStore

namespace NetworkPolicy

def routePolicyKey : String := "routePolicy"

def dnsServersKey : String := "dnsServers"

def fullTunnelApprovalOptionKey : String := "fullTunnelApproved"

end NetworkPolicy

def RoutePolicy.ofRawValue (rawValue : String) : Option RoutePolicy :=
  [.hostRoutesOnly, .splitRoutes, .fullTunnel].find? fun policy =>
    policy.rawValue = rawValue

@[simp] theorem RoutePolicy.ofRawValue_rawValue (policy : RoutePolicy) :
    RoutePolicy.ofRawValue policy.rawValue = some policy := by
  cases policy <;> decide

/-- The failures of the provider. -/
inductive ProviderError where
  | failure (code : Nat) (description : String)
  | core (error : CoreError)
  | store (description : String)
  deriving DecidableEq

/-- Identifiers of profiles and their text. -/
structure ProfileIds where
  Id : Type
  uuidString : Id → String
  ofUuidString : String → Option Id

/-- The text of an identifier is read back. -/
def ProfileIds.Lawful (ids : ProfileIds) : Prop :=
  ∀ id, ids.ofUuidString (ids.uuidString id) = some id

section Policy

variable (foundation : Foundation)

namespace NetworkPolicy

/-- The policy in a dictionary of settings. -/
def ofProviderConfiguration
    (providerConfiguration : ProviderConfiguration) :
    Except CoreError (NetworkPolicy foundation) := do
  let routePolicy ←
    require
      (((providerConfiguration.lookup routePolicyKey).bind
        PropertyValue.asString).bind RoutePolicy.ofRawValue)
      (.operation "VPN 配置缺少受支持的路由策略。")
  match providerConfiguration.lookup dnsServersKey with
  | none => make foundation routePolicy []
  | some rawDNSServers => do
      let dnsServers ←
        require rawDNSServers.asStrings
          (.operation "VPN 配置中的 DNS 服务器格式无效。")
      make foundation routePolicy dnsServers

variable {foundation}

/-- Add the policy to a dictionary of settings. -/
def addingProviderConfiguration
    (policy : NetworkPolicy foundation)
    (configuration : ProviderConfiguration) :
    ProviderConfiguration :=
  (configuration.insert routePolicyKey
    (.string policy.routePolicy.rawValue)).insert dnsServersKey
      (.strings policy.dnsServers)

/-- A policy that was added is read back. -/
theorem ofProviderConfiguration_adding
    (policy : NetworkPolicy foundation)
    (configuration : ProviderConfiguration) :
    ofProviderConfiguration foundation
        (policy.addingProviderConfiguration configuration) =
      .ok policy := by
  have routePolicy :
      (policy.addingProviderConfiguration configuration).lookup
          routePolicyKey =
        some (.string policy.routePolicy.rawValue) := by
    rw [addingProviderConfiguration,
      AList.lookup_insert_ne (by decide), AList.lookup_insert]
  have dnsServers :
      (policy.addingProviderConfiguration configuration).lookup
          dnsServersKey =
        some (.strings policy.dnsServers) :=
    AList.lookup_insert _
  unfold ofProviderConfiguration
  rw [routePolicy, dnsServers]
  simp only [Option.bind_some, PropertyValue.asString,
    PropertyValue.asStrings, RoutePolicy.ofRawValue_rawValue, require]
  exact make_eq_ok foundation policy.normalized

/-- Other settings stay. -/
theorem lookup_addingProviderConfiguration
    (policy : NetworkPolicy foundation)
    (configuration : ProviderConfiguration)
    {key : String}
    (notRoutePolicy : key ≠ routePolicyKey)
    (notDnsServers : key ≠ dnsServersKey) :
    (policy.addingProviderConfiguration configuration).lookup key =
      configuration.lookup key := by
  rw [addingProviderConfiguration, AList.lookup_insert_ne notDnsServers,
    AList.lookup_insert_ne notRoutePolicy]

end NetworkPolicy

end Policy

/-- A profile of the app, as far as its policy goes. -/
structure Profile (ids : ProfileIds) where
  id : ids.Id
  routePolicyRawValue : String
  dnsServers : List String
  trustedWiFiSSIDs : List String
  autoConnectOutsideTrustedWiFi : Bool

def Profile.routePolicy {ids : ProfileIds} (profile : Profile ids) :
    RoutePolicy :=
  (RoutePolicy.ofRawValue profile.routePolicyRawValue).getD .hostRoutesOnly

section Writer

variable (foundation : Foundation) {ids : ProfileIds}

/-- The settings that are saved for a profile. -/
def savedConfiguration
    (profile : Profile ids)
    (networkPolicy : NetworkPolicy foundation) :
    ProviderConfiguration :=
  let onDemandStartAuthorized :=
    profile.autoConnectOutsideTrustedWiFi &&
      !profile.trustedWiFiSSIDs.isEmpty
  networkPolicy.addingProviderConfiguration
    (.ofSettings
      [("schemaVersion", .number 5),
        ("configurationStorage",
          .string (ConfigurationStore.providerStorageKind .iOS)),
        (ConfigurationStore.activeProfileIDKey,
          .string (ids.uuidString profile.id)),
        (ConfigurationStore.onDemandStartAuthorizedKey,
          .boolean onDemandStartAuthorized)])

/-- The policy of a profile and what is saved for it. -/
def configureManager
    (profile : Profile ids) :
    Except CoreError (NetworkPolicy foundation × ProviderConfiguration) := do
  let networkPolicy ←
    NetworkPolicy.make foundation profile.routePolicy profile.dnsServers
  .ok (networkPolicy, savedConfiguration foundation profile networkPolicy)

/-- The options of a start. -/
def startSession
    (profile : Profile ids)
    (fullTunnelConfirmed : Bool) :
    Option ProviderConfiguration :=
  if profile.routePolicy = .fullTunnel then
    some
      (.ofSettings
        [(NetworkPolicy.fullTunnelApprovalOptionKey,
          .boolean fullTunnelConfirmed)])
  else
    none

/-- The app starts a session, unless a full tunnel was not confirmed. -/
def connect
    (profile : Profile ids)
    (fullTunnelConfirmed : Bool) :
    Option (Option ProviderConfiguration) :=
  if profile.routePolicy = .fullTunnel ∧ fullTunnelConfirmed = false then
    none
  else
    some (startSession profile fullTunnelConfirmed)

end Writer

/-- How an accepted start goes on. -/
inductive StartDecision (foundation : Foundation) where
  | install (networkPolicy : NetworkPolicy foundation) (configuration : Bytes)
  | awaitDelivery (networkPolicy : NetworkPolicy foundation)
  deriving DecidableEq

/-- The policy of an accepted start. -/
def StartDecision.networkPolicy
    {foundation : Foundation} :
    StartDecision foundation → NetworkPolicy foundation
  | .install networkPolicy _ => networkPolicy
  | .awaitDelivery networkPolicy => networkPolicy

section Reader

variable
  (foundation : Foundation)
  (ids : ProfileIds)
  (load : ids.Id → Except String Bytes)

/-- The storage kinds that the platform knows. -/
def validateStorage
    (platform : Platform)
    (configurationStorage : String) :
    Except ProviderError Unit :=
  match platform with
  | .iOS =>
      ensure
        (configurationStorage = ConfigurationStore.providerStorageKind .iOS ∨
          configurationStorage =
            ConfigurationStore.legacyProviderStorageKind)
        (.failure 2
          "VPN 配置引用了不受支持的安全配置通道。请在 HushWire 中重新保存策略。")
  | .macOS =>
      ensure
        (configurationStorage =
          ConfigurationStore.providerStorageKind .macOS)
        (.failure 2
          "VPN 配置引用了不受支持的安全配置通道。请在 HushWire 中重新保存配置。")

/-- A full tunnel is approved, and split routes have their schema. -/
def validateRoutePolicy
    (platform : Platform)
    (routePolicy : RoutePolicy)
    (schemaVersion : Int)
    (fullTunnelApproved : Bool)
    (providerConfiguration : ProviderConfiguration) :
    Except ProviderError Unit :=
  let onDemandStartAuthorized :=
    platform = .iOS ∧ 5 ≤ schemaVersion ∧
      (providerConfiguration.lookup
        ConfigurationStore.onDemandStartAuthorizedKey).bind
          PropertyValue.boolValue = some true
  match routePolicy with
  | .hostRoutesOnly => .ok ()
  | .splitRoutes =>
      ensure (schemaVersion = 4)
        (.failure 3 "自定义分流要求 schemaVersion 4，请重新保存 VPN 配置。")
  | .fullTunnel => do
      ensure (3 ≤ schemaVersion)
        (.failure 3
          "默认隧道要求 schemaVersion 3 或更高版本，请重新保存 VPN 配置。")
      ensure (fullTunnelApproved = true ∨ onDemandStartAuthorized)
        (.failure 3
          "默认隧道启动既没有本次确认，也没有已保存的自动连接授权。")

/-- The configuration of the active profile, from the Keychain. -/
def loadActiveProfile
    (schemaVersion : Int)
    (providerConfiguration : ProviderConfiguration) :
    Except ProviderError Bytes := do
  ensure (5 ≤ schemaVersion)
    (.failure 3
      "共享 Keychain 自动启动要求 schemaVersion 5，请重新保存 VPN 配置。")
  let profileID ←
    require
      (((providerConfiguration.lookup
        ConfigurationStore.activeProfileIDKey).bind
          PropertyValue.asString).bind ids.ofUuidString)
      (.failure 2 "VPN 配置缺少有效的当前配置 ID。")
  (load profileID).mapError .store

/-- The checks of a start, in their order. -/
def validateStart
    (platform : Platform)
    (options : Option ProviderConfiguration)
    (protocolConfiguration : Option ProviderConfiguration) :
    Except ProviderError (StartDecision foundation) := do
  let fullTunnelApproved :=
    decide
      ((options.bind fun options =>
        (options.lookup NetworkPolicy.fullTunnelApprovalOptionKey).bind
          PropertyValue.boolValue) = some true)
  let providerConfiguration ←
    require protocolConfiguration (.failure 4 "HushWire VPN 配置不存在。")
  let configurationStorage ←
    require
      ((providerConfiguration.lookup "configurationStorage").bind
        PropertyValue.asString)
      (.failure 2
        "VPN 配置尚未引用安全配置通道。请先在 HushWire 中导入 TOML。")
  validateStorage platform configurationStorage
  let networkPolicy ←
    (NetworkPolicy.ofProviderConfiguration foundation
      providerConfiguration).mapError .core
  let schemaVersion ←
    require
      (((providerConfiguration.lookup "schemaVersion").bind
        PropertyValue.intValue).filter fun version =>
          2 ≤ version ∧ version ≤ 5)
      (.failure 3 "VPN 配置 schemaVersion 不受支持。")
  validateRoutePolicy platform networkPolicy.routePolicy schemaVersion
    fullTunnelApproved providerConfiguration
  if platform = .iOS ∧
      configurationStorage =
        ConfigurationStore.providerStorageKind .iOS then do
    let configuration ←
      loadActiveProfile ids load schemaVersion providerConfiguration
    .ok (.install networkPolicy configuration)
  else
    .ok (.awaitDelivery networkPolicy)

end Reader

section Saved

variable
  {foundation : Foundation}
  {ids : ProfileIds}
  {load : ids.Id → Except String Bytes}
  {profile : Profile ids}
  {networkPolicy : NetworkPolicy foundation}
  {providerConfiguration : ProviderConfiguration}

/-- What is saved for a profile. -/
theorem configureManager_ok
    (saved :
      configureManager foundation profile =
        .ok (networkPolicy, providerConfiguration)) :
    networkPolicy.routePolicy = profile.routePolicy ∧
      NetworkPolicy.ofProviderConfiguration foundation
          providerConfiguration = .ok networkPolicy ∧
      providerConfiguration.lookup "schemaVersion" = some (.number 5) ∧
      providerConfiguration.lookup "configurationStorage" =
        some (.string (ConfigurationStore.providerStorageKind .iOS)) ∧
      providerConfiguration.lookup ConfigurationStore.activeProfileIDKey =
        some (.string (ids.uuidString profile.id)) := by
  simp only [configureManager, bind_eq_ok] at saved
  obtain ⟨policy, made, isSaved⟩ := saved
  cases isSaved
  have setting {key : String}
      (notRoutePolicy : key ≠ NetworkPolicy.routePolicyKey)
      (notDnsServers : key ≠ NetworkPolicy.dnsServersKey) :
      (savedConfiguration foundation profile networkPolicy).lookup key =
        List.lookup key _ :=
    (NetworkPolicy.lookup_addingProviderConfiguration _ _ notRoutePolicy
      notDnsServers).trans (ProviderConfiguration.lookup_ofSettings _ _)
  exact ⟨(NetworkPolicy.make_ok foundation made).1,
    NetworkPolicy.ofProviderConfiguration_adding _ _,
    setting (by decide) (by decide), setting (by decide) (by decide),
    setting (by decide) (by decide)⟩

/-- The app only starts a full tunnel that was confirmed. -/
theorem connect_approves
    {fullTunnelConfirmed : Bool}
    {options : Option ProviderConfiguration}
    (connected : connect profile fullTunnelConfirmed = some options)
    (fullTunnel : profile.routePolicy = .fullTunnel) :
    (options.bind fun options =>
      (options.lookup NetworkPolicy.fullTunnelApprovalOptionKey).bind
        PropertyValue.boolValue) = some true := by
  unfold connect at connected
  cases fullTunnelConfirmed with
  | false =>
      rw [if_pos ⟨fullTunnel, rfl⟩] at connected
      cases connected
  | true =>
      rw [if_neg fun both => nomatch both.2] at connected
      rw [← Option.some.inj connected, startSession, if_pos fullTunnel,
        Option.bind_some, ProviderConfiguration.lookup_ofSettings]
      rfl

/--
The tunnel accepts what the app has saved, with the very policy that was
saved, exactly when the routes are not split.
-/
theorem saved_profile_accepted_iff
    {fullTunnelConfirmed : Bool}
    {options : Option ProviderConfiguration}
    {configuration : Bytes}
    (idsLawful : ids.Lawful)
    (saved :
      configureManager foundation profile =
        .ok (networkPolicy, providerConfiguration))
    (connected : connect profile fullTunnelConfirmed = some options)
    (stored : load profile.id = .ok configuration) :
    validateStart foundation ids load .iOS options
          (some providerConfiguration) =
        .ok (.install networkPolicy configuration) ↔
      profile.routePolicy ≠ .splitRoutes := by
  obtain ⟨samePolicy, decoded, schemaVersion, storage, profileID⟩ :=
    configureManager_ok saved
  have loaded :
      loadActiveProfile ids load 5 providerConfiguration =
        .ok configuration := by
    simp [loadActiveProfile, profileID, PropertyValue.asString,
      idsLawful profile.id, stored, ensure, require, bind, Except.bind,
      Except.mapError]
  have checked :
      validateStart foundation ids load .iOS options
          (some providerConfiguration) =
        (validateRoutePolicy .iOS networkPolicy.routePolicy 5
            (decide
              ((options.bind fun options =>
                (options.lookup
                  NetworkPolicy.fullTunnelApprovalOptionKey).bind
                    PropertyValue.boolValue) = some true))
            providerConfiguration >>= fun _ =>
          .ok (.install networkPolicy configuration)) := by
    simp [validateStart, storage, decoded, schemaVersion, loaded,
      PropertyValue.asString, PropertyValue.intValue, validateStorage,
      ensure, require, bind, Except.bind, Except.mapError, Option.filter]
  rw [checked, bind_eq_ok, samePolicy]
  cases policy : profile.routePolicy with
  | hostRoutesOnly =>
      simp [validateRoutePolicy]
  | splitRoutes =>
      simp [validateRoutePolicy]
  | fullTunnel =>
      simp [validateRoutePolicy, bind_eq_ok,
        connect_approves connected policy]

end Saved

namespace SavedProfileExample

open PlainFoundation (foundation)

/-- Profiles are numbered, and their identifiers are written in unary. -/
def ids : ProfileIds where
  Id := Nat
  uuidString := fun id => .ofList (List.replicate id 'I')
  ofUuidString := fun text => some text.toList.length

theorem ids_lawful : ids.Lawful := by
  have readBack (number : Nat) :
      (String.ofList (List.replicate number 'I')).toList.length = number := by
    simp
  exact fun id => congrArg some (readBack id)

/-- The Keychain has one configuration for every profile. -/
def load (_ : ids.Id) : Except String Bytes :=
  .ok [0x5b]

/-- A profile with the given routes and one server. -/
def profile (routePolicy : RoutePolicy) : Profile ids where
  id := (3 : Nat)
  routePolicyRawValue := routePolicy.rawValue
  dnsServers := ["1.1.1.1"]
  trustedWiFiSSIDs := []
  autoConnectOutsideTrustedWiFi := false

/-- The policy of the profile. -/
def networkPolicy (routePolicy : RoutePolicy) : NetworkPolicy foundation :=
  match NetworkPolicy.make foundation routePolicy ["1.1.1.1"] with
  | .ok networkPolicy => networkPolicy
  | .error _ => .hostRoutesOnly foundation

/-- What is saved for the profile. -/
def providerConfiguration (routePolicy : RoutePolicy) :
    ProviderConfiguration :=
  savedConfiguration foundation (profile routePolicy)
    (networkPolicy routePolicy)

theorem configureManager_profile
    {routePolicy : RoutePolicy}
    (made :
      NetworkPolicy.make foundation (profile routePolicy).routePolicy
          ["1.1.1.1"] =
        .ok (networkPolicy routePolicy)) :
    configureManager foundation (profile routePolicy) =
      .ok (networkPolicy routePolicy, providerConfiguration routePolicy) :=
  bind_eq_ok.mpr ⟨_, made, rfl⟩

end SavedProfileExample

/-- A full tunnel that was confirmed is accepted. -/
theorem saved_profile_accepted_iff_example :
    validateStart PlainFoundation.foundation SavedProfileExample.ids
          SavedProfileExample.load .iOS
          (startSession (SavedProfileExample.profile .fullTunnel) true)
          (some (SavedProfileExample.providerConfiguration .fullTunnel)) =
        .ok (.install (SavedProfileExample.networkPolicy .fullTunnel)
          [0x5b]) ↔
      (SavedProfileExample.profile .fullTunnel).routePolicy ≠
        .splitRoutes :=
  saved_profile_accepted_iff SavedProfileExample.ids_lawful
    (SavedProfileExample.configureManager_profile
      (by decide +kernel :
        NetworkPolicy.make PlainFoundation.foundation
            (SavedProfileExample.profile .fullTunnel).routePolicy
            ["1.1.1.1"] =
          .ok (SavedProfileExample.networkPolicy .fullTunnel)))
    (rfl :
      connect (SavedProfileExample.profile .fullTunnel) true =
        some (startSession (SavedProfileExample.profile .fullTunnel) true))
    rfl

/-- Split routes are saved in a schema in which the tunnel refuses them. -/
theorem saved_profile_counterexample :
    configureManager PlainFoundation.foundation
          (SavedProfileExample.profile .splitRoutes) =
        .ok (SavedProfileExample.networkPolicy .splitRoutes,
          SavedProfileExample.providerConfiguration .splitRoutes) ∧
      connect (SavedProfileExample.profile .splitRoutes) false =
        some none ∧
      validateStart PlainFoundation.foundation SavedProfileExample.ids
          SavedProfileExample.load .iOS none
          (some (SavedProfileExample.providerConfiguration .splitRoutes)) =
        .error (.failure 3
          "自定义分流要求 schemaVersion 4，请重新保存 VPN 配置。") := by
  refine ⟨SavedProfileExample.configureManager_profile ?_, rfl, ?_⟩
  · decide +kernel
  · decide +kernel

end HushWire.PacketTunnel
