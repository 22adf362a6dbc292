import ReplicaPool.Json.Reader
import ReplicaPool.Main
import ReplicaPool.Session.Direct
import ReplicaPool.Session.Pooled
import ReplicaPool.Session.Ring
import ReplicaPool.World.Method
import ReplicaPool.Proofs.RoundRobin.Index
import ReplicaPool.Proofs.Topology.Entries
import ReplicaPool.Proofs.Cluster.Evolution
import ReplicaPool.Proofs.Pool.Sections
import ReplicaPool.Proofs.Pool.Soundness
import ReplicaPool.Proofs.Upkeep.Soundness
import ReplicaPool.Proofs.Pool.Closing
import ReplicaPool.Proofs.System.Construction
import ReplicaPool.Proofs.System.Convergence
import ReplicaPool.Proofs.System.Finality
import ReplicaPool.Proofs.Pool.Routing
import ReplicaPool.Proofs.Operation.Plans
import ReplicaPool.Proofs.Operation.Routing
import ReplicaPool.Proofs.Operation.Asynchronous
import ReplicaPool.Proofs.System.Steps
import ReplicaPool.Proofs.Learning.Findings
import ReplicaPool.Proofs.Learning.Upkeep
import ReplicaPool.Proofs.Learning.Roles
import ReplicaPool.Proofs.Discovery.Course
import ReplicaPool.Proofs.Discovery.Exactness
import ReplicaPool.Proofs.System.Status
import ReplicaPool.Proofs.Discovery.Failure
import ReplicaPool.Proofs.Store.Upsert
import ReplicaPool.Proofs.System.CloseEvents
import ReplicaPool.Proofs.System.Failures
import ReplicaPool.Proofs.Store.IntegerKeys
import ReplicaPool.Proofs.Cluster.Reports
import ReplicaPool.Proofs.Cluster.Passages
import ReplicaPool.Proofs.Operation.LiveNodes
import ReplicaPool.Proofs.System.Data
import ReplicaPool.Proofs.System.Capacity
import ReplicaPool.Proofs.System.Continuity
import ReplicaPool.Proofs.Config.RoundTrip
import ReplicaPool.Proofs.Operation.Methods
import ReplicaPool.Proofs.System.Balance
import ReplicaPool.Proofs.Operation.Queries
import ReplicaPool.Proofs.RoundRobin.Scan
import ReplicaPool.Proofs.Store.Arithmetic
import ReplicaPool.Proofs.Store.Composition
import ReplicaPool.Proofs.System.Connecting
import ReplicaPool.Proofs.RoundRobin.Refinement
import ReplicaPool.Proofs.RoundRobin.Closing
import ReplicaPool.Proofs.System.ClosingCalls
import ReplicaPool.Proofs.System.Scheduling
import ReplicaPool.Proofs.Config.Addresses
import ReplicaPool.Proofs.Store.Sorting
