import ReplicaPool.Cluster.Basic

/-!
# Steering a cluster

The commands with which an experiment changes its cluster and looks at it. A command that names an
address without a node has the answer `absent`.
-/

namespace ReplicaPool

inductive ClusterCommand where
  | addNode (addr : String) (readOnly : Bool)
  | register (name : String) (results : List Json)
  | addrs
  | dials
  | setReadOnly (addr : String) (readOnly : Bool)
  | stop (addr : String)
  | start (addr : String)
  | setLink (addr : String) (up : Bool)
  | describe (addr : String)
deriving Inhabited

inductive ClusterReply where
  | done
  | absent
  | added (node : Node)
  | addrs (addrs : List String)
  | count (value : Nat)
  | flag (value : Bool)
  | described (node : Node) (openCount : Nat)
deriving Inhabited

namespace Cluster

def onNode (cluster : Cluster) (addr : String) (change : Cluster → NodeId → Cluster)
    (report : Cluster → NodeId → Node → ClusterReply) : Cluster × ClusterReply :=
  match cluster.nodeAt? addr with
  | none => (cluster, .absent)
  | some id =>
      let cluster := change cluster id
      match cluster.nodes[id]? with
      | none => (cluster, .absent)
      | some node => (cluster, report cluster id node)

def steer (cluster : Cluster) : ClusterCommand → Cluster × ClusterReply
  | .addNode addr readOnly =>
      (cluster.addNode addr readOnly).onNode addr (fun cluster _ => cluster)
        fun _ _ node => .added node
  | .register name results => (cluster.register name results, .done)
  | .addrs => (cluster, .addrs cluster.addrs)
  | .dials => (cluster, .count cluster.dials)
  | .setReadOnly addr readOnly =>
      cluster.onNode addr (fun cluster id => cluster.setReadOnly id readOnly)
        fun _ _ node => .flag node.readOnly
  | .stop addr => cluster.onNode addr stop fun _ _ node => .flag node.running
  | .start addr => cluster.onNode addr start fun _ _ node => .flag node.running
  | .setLink addr up =>
      cluster.onNode addr (fun cluster id => cluster.setLink id up)
        fun cluster id _ => .count (cluster.openCount id)
  | .describe addr =>
      cluster.onNode addr (fun cluster _ => cluster)
        fun cluster id node => .described node (cluster.openCount id)

end Cluster

end ReplicaPool
