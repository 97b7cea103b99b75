import RulePlane.Cache
import RulePlane.Cluster.Exchange
import RulePlane.Cluster.Watch
import RulePlane.CommandLine
import RulePlane.Diagnostic
import RulePlane.Discovery.Protocol
import RulePlane.Discovery.Reading
import RulePlane.Discovery.WatchList
import RulePlane.Dispatcher
import RulePlane.Document
import RulePlane.FanOut
import RulePlane.Host.Console
import RulePlane.Host.Schedule
import RulePlane.Host.State
import RulePlane.Json.Reader
import RulePlane.Json.Writer
import RulePlane.KindTable
import RulePlane.Labels
import RulePlane.Main
import RulePlane.Message.FaultTolerance
import RulePlane.Message.Route
import RulePlane.Metrics
import RulePlane.Number.Binary64
import RulePlane.Number.Literal
import RulePlane.Ordered
import RulePlane.Plane.Activity
import RulePlane.Plane.Change
import RulePlane.Plane.Discovery
import RulePlane.Plane.State
import RulePlane.Plane.Transport
import RulePlane.Policy.FaultTolerance
import RulePlane.Policy.VirtualService
import RulePlane.Proofs.ActingStreams
import RulePlane.Proofs.BetweenSends
import RulePlane.Proofs.Binary64Bits
import RulePlane.Proofs.CacheAgreement
import RulePlane.Proofs.ChangedGroups
import RulePlane.Proofs.ClientViews
import RulePlane.Proofs.ConcurrentDraws
import RulePlane.Proofs.CountedPushes
import RulePlane.Proofs.CoveredSlots
import RulePlane.Proofs.CurrentRules
import RulePlane.Proofs.DenotedRules
import RulePlane.Proofs.Dialogue
import RulePlane.Proofs.DiscoverySlots
import RulePlane.Proofs.DiscoveryStreams
import RulePlane.Proofs.DispatchOrder
import RulePlane.Proofs.FaithfulRules
import RulePlane.Proofs.FaultToleranceReading
import RulePlane.Proofs.FieldReading
import RulePlane.Proofs.FinishedStreams
import RulePlane.Proofs.FreshTokens
import RulePlane.Proofs.InformedClients
import RulePlane.Proofs.Joining
import RulePlane.Proofs.Leftovers
import RulePlane.Proofs.NameSegments
import RulePlane.Proofs.OverlappingSends
import RulePlane.Proofs.Overtaking
import RulePlane.Proofs.PassingSends
import RulePlane.Proofs.PlayedSends
import RulePlane.Proofs.PolicyRanges
import RulePlane.Proofs.PushAccounts
import RulePlane.Proofs.RecordedNonces
import RulePlane.Proofs.RefusedSubscriptions
import RulePlane.Proofs.RegistryHistory
import RulePlane.Proofs.RegistrySlots
import RulePlane.Proofs.Relisting
import RulePlane.Proofs.ResourceFiling
import RulePlane.Proofs.RouteReading
import RulePlane.Proofs.Sending
import RulePlane.Proofs.SessionHistory
import RulePlane.Proofs.StreamAffairs
import RulePlane.Proofs.StreamIsolation
import RulePlane.Proofs.SubscriptionFilters
import RulePlane.Proofs.SupportedKinds
import RulePlane.Proofs.TrackedTargets
import RulePlane.Proofs.TransportDelivery
import RulePlane.Proofs.TransportNames
import RulePlane.Proofs.TransportNews
import RulePlane.Proofs.TransportPublication
import RulePlane.Proofs.TransportRequests
import RulePlane.Proofs.TransportSlots
import RulePlane.Proofs.TransportSnapshots
import RulePlane.Proofs.TransportStreams
import RulePlane.Proofs.WatchedNames
import RulePlane.Proofs.WatcherHistory
import RulePlane.Proofs.WatcherRegistration
import RulePlane.Proofs.WireReading
import RulePlane.Proofs.WorkersLeftAlone
import RulePlane.Push.Activity
import RulePlane.Push.Delivery
import RulePlane.Push.Outbox
import RulePlane.Push.Token
import RulePlane.Quantity.Duration
import RulePlane.Quantity.Error
import RulePlane.Quantity.Ratio
import RulePlane.Registry
import RulePlane.Report
import RulePlane.Resource
import RulePlane.ResourceName
import RulePlane.Rule
import RulePlane.Rule.FaultTolerance
import RulePlane.Rule.Routing
import RulePlane.SocketAddress
import RulePlane.Subscribers
import RulePlane.Subscriptions
import RulePlane.Table
import RulePlane.Target
import RulePlane.Text.Blank
import RulePlane.Text.Letter
import RulePlane.Text.Mark
import RulePlane.Text.Quoted
import RulePlane.Text.Ranges
import RulePlane.Text.Unprintable
import RulePlane.Transport.Protocol
import RulePlane.Transport.Reading
import RulePlane.Watch.Event
import RulePlane.Watch.Tracker
import RulePlane.Watcher
import RulePlane.Watchers
import RulePlane.Wire.Field
import RulePlane.Wire.Varint
import RulePlane.Proofs.GroupHistory
import RulePlane.Proofs.Binary64Rounding
import RulePlane.Proofs.EventCounters
import RulePlane.Proofs.RoutedServices
import RulePlane.Proofs.WrittenNumbers
import RulePlane.Proofs.DurationReading
