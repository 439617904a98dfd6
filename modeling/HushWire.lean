import HushWire.Library.AssociationMap
import HushWire.Library.Execution
import HushWire.Auth
import HushWire.Replay
import HushWire.Noise
import HushWire.SessionManager
import HushWire.PeerEntry
import HushWire.PeerTable
import HushWire.ManagerEvents
import HushWire.HandshakeEvents
import HushWire.ManagerRun
import HushWire.PlainNoise
import HushWire.SessionIds
import HushWire.ForgedResponse
import HushWire.Accounts
import HushWire.Delivery
import HushWire.Nonces
import HushWire.Engine
import HushWire.ColdHandshake
import HushWire.InboundFrames
import HushWire.IdealNoise
import HushWire.Operations
import HushWire.Effects
import HushWire.LinkRun
import HushWire.LinkHistory
import HushWire.Agreement
import HushWire.Library.Slice
import HushWire.WireCodec
import HushWire.Candidates
import HushWire.Library.LongestMatch
import HushWire.Config
import HushWire.Router
import HushWire.HostRoutes
import HushWire.RouteAgreement
import HushWire.ConfigurationPolicy
import HushWire.PlanRouting
import HushWire.PlainFoundation
import HushWire.PolicyAgreement
import HushWire.ProviderConfiguration
import HushWire.Authentication
import HushWire.CoreRuntime
import HushWire.Provider
import HushWire.ProviderSystem
import HushWire.ProviderSteps
import HushWire.ProviderJobs
import HushWire.ProviderLifecycle
import HushWire.RunningCore
import HushWire.SessionSettings
import HushWire.Preflight
import HushWire.Completions
import HushWire.RuntimeLifecycle
import HushWire.StopBarrier
import HushWire.Library.Framing
import HushWire.TcpTransport
import HushWire.TcpFraming
import HushWire.Gateway
import HushWire.GatewaySteps
import HushWire.Forwarding
import HushWire.GatewayRules
import HushWire.GatewayFailure
import HushWire.ExitNode
import HushWire.Scheduler
import HushWire.RateLimits
import HushWire.ReplayHistory
import HushWire.RouterLookup
import HushWire.Announcements
import HushWire.NoiseLimits
import HushWire.TickInitiations
import HushWire.RebindBroadcast
import HushWire.StaleRecovery
import HushWire.PacketSizes
import HushWire.EndpointSelection
import HushWire.HandshakeRetries
import HushWire.RedeliveredInitiations
import HushWire.RouteRollback
import HushWire.TunnelStart
import HushWire.Library.Fifo
import HushWire.PendingQueue
import HushWire.EndOfStream
import HushWire.ConnectionMap
import HushWire.StalenessAgreement
import HushWire.Library.NumberedRemoval
import HushWire.OwnedRules
import HushWire.Library.Numerals
import HushWire.EndpointText
import HushWire.ConfigurationOrder
import HushWire.RouteOrder
import HushWire.Library.LineRedaction
import HushWire.Library.OpenLines
import HushWire.Redaction
import HushWire.NetworkTransport
import HushWire.NetworkFlows
import HushWire.FlowDelivery
import HushWire.SendAnswers
import HushWire.LinkDelivery
import HushWire.TunnelWorkers
import HushWire.PeerTraffic
import HushWire.Library.KnownKeys
import HushWire.BoundedState
import HushWire.TunnelLink
import HushWire.LinkRecovery
import HushWire.InFlight
import HushWire.KeepaliveCadence
import HushWire.UdpTransport
import HushWire.Library.ReferenceCount
import HushWire.UdpSockets
import HushWire.Library.SharedCell
import HushWire.UdpRebind
import HushWire.GatewayStatus
import HushWire.GatewayHealth
