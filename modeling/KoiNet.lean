import KoiNet.Assembly.Correctness
import KoiNet.Assembly.Creation
import KoiNet.Assembly.Graphs
import KoiNet.Assembly.Isolation
import KoiNet.Assembly.Relations
import KoiNet.Assembly.Sorting
import KoiNet.Assembly.StopOrder
import KoiNet.Components.Cache
import KoiNet.Components.CacheFiles
import KoiNet.Components.ConfigProvider
import KoiNet.Components.Effector
import KoiNet.Components.EventBuffer
import KoiNet.Components.EventWorker
import KoiNet.Components.Exchange
import KoiNet.Components.Graph
import KoiNet.Components.Handshaker
import KoiNet.Components.KnowledgeHandler
import KoiNet.Components.KobjWait
import KoiNet.Components.Node
import KoiNet.Components.NodeServer
import KoiNet.Components.Pipeline
import KoiNet.Components.Poller
import KoiNet.Components.RequestHandler
import KoiNet.Components.ResponseHandler
import KoiNet.Components.SecureManager
import KoiNet.Components.Storage
import KoiNet.Components.SyncManager
import KoiNet.Components.WorkerThreads
import KoiNet.Delivery.Attempts
import KoiNet.Delivery.Impersonation
import KoiNet.Delivery.Link
import KoiNet.Delivery.Losslessness
import KoiNet.Delivery.Polling
import KoiNet.Delivery.Polls
import KoiNet.Delivery.Shutdown
import KoiNet.Delivery.Timers
import KoiNet.FirstContact.Calls
import KoiNet.FirstContact.Consistency
import KoiNet.FirstContact.Loops
import KoiNet.FirstContact.Members
import KoiNet.FirstContact.Runs
import KoiNet.FirstContact.Syncing
import KoiNet.Foundation.Codec
import KoiNet.Foundation.DiGraph
import KoiNet.Foundation.Dict
import KoiNet.Foundation.Effect
import KoiNet.Foundation.Execution
import KoiNet.Foundation.Gossip
import KoiNet.Foundation.Guarded
import KoiNet.Foundation.Json
import KoiNet.Foundation.LastWriter
import KoiNet.Foundation.OrderedSet
import KoiNet.Foundation.Precedence
import KoiNet.Foundation.Recorded
import KoiNet.Foundation.TopoSort
import KoiNet.Foundation.Worklist
import KoiNet.Infra.Assembler
import KoiNet.Infra.BuildArtifact
import KoiNet.Infra.Component
import KoiNet.Infra.Lifecycle
import KoiNet.Infra.LifecycleThreads
import KoiNet.Infra.LogSystem
import KoiNet.Interfaces.Network
import KoiNet.Lifecycle.CleanRestart
import KoiNet.Lifecycle.Completeness
import KoiNet.Lifecycle.Exclusion
import KoiNet.Lifecycle.Identity
import KoiNet.Lifecycle.Restartability
import KoiNet.Lifecycle.WaitGuarantee
import KoiNet.Membership.Aftermath
import KoiNet.Membership.Forgetting
import KoiNet.Membership.Handshake
import KoiNet.Membership.Rejoining
import KoiNet.Membership.Unreachability
import KoiNet.Negotiation.Agreement
import KoiNet.Negotiation.Bystanders
import KoiNet.Negotiation.EdgeBroadcast
import KoiNet.Negotiation.EdgeObjects
import KoiNet.Negotiation.EdgeViews
import KoiNet.Negotiation.Parties
import KoiNet.Negotiation.Phases
import KoiNet.Persistence.CacheMap
import KoiNet.Persistence.ConfigFile
import KoiNet.Pipeline.Acceptance
import KoiNet.Pipeline.Accounting
import KoiNet.Pipeline.BroadcastTargets
import KoiNet.Pipeline.CacheEffect
import KoiNet.Pipeline.Chains
import KoiNet.Pipeline.Chores
import KoiNet.Pipeline.Coherence
import KoiNet.Pipeline.Contact
import KoiNet.Pipeline.Convergence
import KoiNet.Pipeline.Documents
import KoiNet.Pipeline.EdgeApproval
import KoiNet.Pipeline.EntryIdentity
import KoiNet.Pipeline.FetchFailures
import KoiNet.Pipeline.Fidelity
import KoiNet.Pipeline.Frames
import KoiNet.Pipeline.Freshness
import KoiNet.Pipeline.GraphView
import KoiNet.Pipeline.Neighbors
import KoiNet.Pipeline.NodeObjects
import KoiNet.Pipeline.Ordering
import KoiNet.Pipeline.OutwardEdges
import KoiNet.Pipeline.Processing
import KoiNet.Pipeline.ProfileKeys
import KoiNet.Pipeline.Quiescence
import KoiNet.Pipeline.Recording
import KoiNet.Pipeline.Requests
import KoiNet.Pipeline.Settlement
import KoiNet.Pipeline.Soundness
import KoiNet.Pipeline.Synchronization
import KoiNet.Pipeline.Validity
import KoiNet.Pipeline.WorkerSafety
import KoiNet.Protocol.Api
import KoiNet.Protocol.ApiJson
import KoiNet.Protocol.Exceptions
import KoiNet.Protocol.KnowledgeObject
import KoiNet.Protocol.Profile
import KoiNet.Protocol.Rid
import KoiNet.Protocol.Signing
import KoiNet.Resolution.Dereferencing
import KoiNet.Resolution.RemoteFetch
import KoiNet.Security.EnvelopeRoundTrip
import KoiNet.Security.ErrorCoverage
import KoiNet.Security.Refusals
import KoiNet.Security.RemoteCalls
import KoiNet.Security.RequestAuthenticity
import KoiNet.Security.ResponseAuthenticity
import KoiNet.Security.SignatureCodec
import KoiNet.Security.Validation
import KoiNet.Spreading.DocumentWork
import KoiNet.Spreading.PeerNetwork
import KoiNet.Spreading.Settling
import KoiNet.Storage.Agreement
import KoiNet.Storage.Fidelity
import KoiNet.Storage.Files
import KoiNet.Storage.Processing
import KoiNet.Storage.Publication
import KoiNet.Storage.WorkerSafety
