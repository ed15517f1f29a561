import EdgeGateway.Adapter.Monitor
import EdgeGateway.Adapter.Node
import EdgeGateway.Adapter.Registry
import EdgeGateway.Adapter.Schema
import EdgeGateway.Adapter.Scripted
import EdgeGateway.Agenda
import EdgeGateway.Bridge.Drain
import EdgeGateway.Bridge.HopGuard
import EdgeGateway.Bridge.Interceptor
import EdgeGateway.Bridge.Manager
import EdgeGateway.Broker
import EdgeGateway.Config.Decode
import EdgeGateway.Config.Load
import EdgeGateway.Config.Parse
import EdgeGateway.Decode.Json
import EdgeGateway.Document.Config
import EdgeGateway.Document.Fault
import EdgeGateway.Document.Message
import EdgeGateway.Document.Status
import EdgeGateway.Gateway.Operation
import EdgeGateway.Json.Reader
import EdgeGateway.Main
import EdgeGateway.Metrics.Exposition
import EdgeGateway.Proofs.Adapter.Inventory
import EdgeGateway.Proofs.Adapter.Limits
import EdgeGateway.Proofs.Adapter.Outbox
import EdgeGateway.Proofs.Adapter.Violations
import EdgeGateway.Proofs.Bridge.Chains
import EdgeGateway.Proofs.Bridge.HopHandover
import EdgeGateway.Proofs.Bridge.HopLimits
import EdgeGateway.Proofs.Bridge.Scheduling
import EdgeGateway.Proofs.Bridge.Startup
import EdgeGateway.Proofs.Broker.Delivery
import EdgeGateway.Proofs.Config.Validation
import EdgeGateway.Proofs.Gateway.Directory
import EdgeGateway.Proofs.Gateway.FanOut
import EdgeGateway.Proofs.Gateway.Handover
import EdgeGateway.Proofs.Gateway.Looks
import EdgeGateway.Proofs.Gateway.Tokens
import EdgeGateway.Proofs.Metrics
import EdgeGateway.Proofs.Settings.Placeholders
import EdgeGateway.Proofs.Simulation.Config
import EdgeGateway.Proofs.Simulation.Ranges
import EdgeGateway.Proofs.Simulation.Samples
import EdgeGateway.Proofs.Topic.Filters
import EdgeGateway.Proofs.Topic.Matching
import EdgeGateway.Proofs.Topic.Templates
import EdgeGateway.Remote
import EdgeGateway.Service
import EdgeGateway.Simulation.Client
import EdgeGateway.Simulation.Config
import EdgeGateway.Simulation.Trial
import EdgeGateway.Toml.Reader
