import VpnSuite.Agent.ReconcileConvergence
import VpnSuite.Runtime.PeerCommandSafety
import VpnSuite.ControlPlane.ReconciliationResults
import VpnSuite.ControlPlane.DiffAccounting
import VpnSuite.ControlPlane.ConcurrentPolls
import VpnSuite.Billing.WebhookConcurrency
import VpnSuite.Billing.ConcurrentConfirm
import VpnSuite.Billing.PromoRedemption
import VpnSuite.Billing.PendingSubscriptions
import VpnSuite.Billing.TrialStart
import VpnSuite.Fleet.Entitlement
import VpnSuite.Fleet.IssueReconcileRace
import VpnSuite.Fleet.MigratePeer
import VpnSuite.Delivery.ConcurrentTokens
import VpnSuite.ControlPlane.LiveKey
import VpnSuite.Billing.Invoices
import VpnSuite.Fleet.SameConfigs
import VpnSuite.Fleet.RotateOnNode
import VpnSuite.Fleet.IssueOnNode
import VpnSuite.Fleet.ReissueIdempotency
import VpnSuite.Fleet.HandshakeGate
import VpnSuite.Fleet.NodeHeaders
import VpnSuite.Fleet.PublicEndpoints
import VpnSuite.Access.InitData
import VpnSuite.Access.RedactionSettles
import VpnSuite.ControlPlane.RebalanceRounds
import VpnSuite.ControlPlane.RebalanceBounds
import VpnSuite.ControlPlane.RebalanceExecution
import VpnSuite.ControlPlane.ExecutionBooks
import VpnSuite.ControlPlane.Failover
import VpnSuite.ControlPlane.ServerProvisioning
import VpnSuite.ControlPlane.AgentDiscovery
import VpnSuite.Runtime.NodeIds
import VpnSuite.ControlPlane.DockerAlerts
import VpnSuite.ControlPlane.TopologyVersion
import VpnSuite.Delivery.PublicDownload
import VpnSuite.Billing.RemainingTime
import VpnSuite.Billing.ExpiryReminders
import VpnSuite.Agent.ObfuscationSync
import VpnSuite.Agent.EnvFileRoundTrip
import VpnSuite.Runtime.DumpParsers
import VpnSuite.Access.RateLimits
import VpnSuite.Fleet.DisplayedStatus
import VpnSuite.Fleet.DesiredSources
import VpnSuite.Config.ConfigReading
import VpnSuite.Config.Awg2Normalisation
import VpnSuite.Config.EndpointGrammar
import VpnSuite.Config.SanitizedBuild
import VpnSuite.Config.VpnKey
import VpnSuite.Agent.ContainerIds
import VpnSuite.ControlPlane.PlacementSimulation
import VpnSuite.Runtime.AddPeerEffects
import VpnSuite.Runtime.BandwidthPolicies
import VpnSuite.Config.ProfileSelection
import VpnSuite.Access.RefreshSessions
import VpnSuite.Access.RefreshReplay
import VpnSuite.Telemetry.LiveStream
import VpnSuite.Telemetry.DockerCircuit
import VpnSuite.Telemetry.DashboardTimeseries
import VpnSuite.Telemetry.ContainerLogs
import VpnSuite.ControlPlane.HealthLoops
import VpnSuite.ControlPlane.SyncLoop
import VpnSuite.Agent.LoopStarvation
import VpnSuite.Agent.SyncActions
import VpnSuite.ControlPlane.DockerScans
