import ReplicaPool.Cluster.Event
import ReplicaPool.Cluster.Node

/-!
# Clusters

A cluster holds nodes, the connections dialled to them and the queues these report to. A node that is
replaced under its address lives on for its connections. `Cluster.shift` is the only way in which links
change: it changes some connections in the order in which they were dialled and delivers their reports.
-/

namespace ReplicaPool

abbrev NodeId := Nat

abbrev ConnectionId := Nat

abbrev QueueId := Nat

/-- Request timeout of every connection, in milliseconds. -/
def requestTimeout : Nat := 500

structure Connection where
  addr : String
  node : NodeId
  queue : QueueId
  link : Link
  /-- Whether somebody still holds the connection. -/
  held : Bool := true
deriving DecidableEq, Repr, Inhabited

structure Cluster where
  /-- All nodes ever added; a node's number is its place. -/
  nodes : List Node := []
  /-- The nodes now at an address, the newest first. -/
  directory : List (String × NodeId) := []
  functions : Functions := []
  /-- All connections ever made; a connection's number is its place. -/
  connections : List Connection := []
  queues : List EventQueue := []
  /-- How often a node was dialled. -/
  dials : Nat := 0
deriving Inhabited

namespace Cluster

/-- Adds a running node, which takes over its address. -/
def addNode (cluster : Cluster) (addr : String) (readOnly : Bool) : Cluster :=
  { cluster with
    nodes := cluster.nodes ++ [{ addr, readOnly }]
    directory := (addr, cluster.nodes.length) :: cluster.directory }

def nodeAt? (cluster : Cluster) (addr : String) : Option NodeId :=
  cluster.directory.lookup addr

def insertSorted (name : String) : List String → List String
  | [] => [name]
  | other :: rest =>
      if name < other then name :: other :: rest
      else if name = other then other :: rest
      else other :: insertSorted name rest

def addrs (cluster : Cluster) : List String :=
  cluster.directory.foldl (fun sorted (addr, _) => insertSorted addr sorted) []

def register (cluster : Cluster) (name : String) (results : List Json) : Cluster :=
  { cluster with functions := (name, results) :: cluster.functions }

def addQueue (cluster : Cluster) (capacity : Nat) : QueueId × Cluster :=
  (cluster.queues.length, { cluster with queues := cluster.queues ++ [{ capacity }] })

def modifyNode (cluster : Cluster) (node : NodeId) (change : Node → Node) : Cluster :=
  { cluster with nodes := cluster.nodes.modify node change }

def modifyQueue (cluster : Cluster) (queue : QueueId) (change : EventQueue → EventQueue) :
    Cluster :=
  { cluster with queues := cluster.queues.modify queue change }

def emissions (connections : List Connection) (concerns : ConnectionId → Connection → Bool)
    (change : Link → Link × List EventKind) : List (QueueId × Event) :=
  connections.zipIdx.flatMap fun (connection, id) =>
    if concerns id connection then
      (change connection.link).2.map fun kind => (connection.queue, ⟨connection.addr, kind⟩)
    else []

def deliver (cluster : Cluster) (reports : List (QueueId × Event)) : Cluster :=
  reports.foldl (fun cluster (queue, event) => cluster.modifyQueue queue (·.emit event)) cluster

def shift (cluster : Cluster) (concerns : ConnectionId → Connection → Bool)
    (change : Link → Link × List EventKind) : Cluster :=
  let reports := emissions cluster.connections concerns change
  let connections := cluster.connections.mapIdx fun id connection =>
    if concerns id connection then { connection with link := (change connection.link).1 }
    else connection
  { cluster with connections }.deliver reports

def isHeldBy (node : NodeId) (connection : Connection) : Bool :=
  connection.held && connection.node == node

def setReadOnly (cluster : Cluster) (node : NodeId) (readOnly : Bool) : Cluster :=
  cluster.modifyNode node fun present => { present with readOnly }

def stop (cluster : Cluster) (node : NodeId) : Cluster :=
  (cluster.modifyNode node fun present => { present with running := false }).shift
    (fun _ connection => isHeldBy node connection) Link.terminate

def start (cluster : Cluster) (node : NodeId) : Cluster :=
  cluster.modifyNode node fun present => { present with running := true }

/-- Cuts or restores a node's link; open connections stay open. -/
def setLink (cluster : Cluster) (node : NodeId) (up : Bool) : Cluster :=
  (cluster.modifyNode node fun present => { present with linkUp := up }).shift
    (fun _ connection => isHeldBy node connection) (Link.setUp up)

def openCount (cluster : Cluster) (node : NodeId) : Nat :=
  cluster.connections.countP fun connection =>
    isHeldBy node connection && connection.link != .closed

/-- The state of a connection's link; a connection that was never made counts as closed. -/
def link (cluster : Cluster) (connection : ConnectionId) : Link :=
  match cluster.connections[connection]? with
  | some present => present.link
  | none => .closed

def isConnected (cluster : Cluster) (connection : ConnectionId) : Bool :=
  cluster.link connection == .connected

def isClosed (cluster : Cluster) (connection : ConnectionId) : Bool :=
  cluster.link connection == .closed

def connectionAddr (cluster : Cluster) (connection : ConnectionId) : String :=
  match cluster.connections[connection]? with
  | some present => present.addr
  | none => ""

def dial (cluster : Cluster) (addr : String) (queue : QueueId) :
    Cluster × Except ConnectionError ConnectionId :=
  let cluster := { cluster with dials := cluster.dials + 1 }
  match cluster.nodeAt? addr with
  | none => (cluster, .error (.refused addr))
  | some id =>
      match cluster.nodes[id]? with
      | none => (cluster, .error (.refused addr))
      | some node =>
          if node.running then
            let link := if node.linkUp then Link.connected else Link.disconnected
            let fresh : Connection := { addr, node := id, queue, link }
            let made := { cluster with connections := cluster.connections ++ [fresh] }
            (made.deliver [(queue, ⟨addr, .connected⟩)], .ok cluster.connections.length)
          else (cluster, .error (.refused addr))

def execute (cluster : Cluster) (connection : ConnectionId) (request : Request) :
    Cluster × Except (Failure ConnectionError) (List Json) :=
  match cluster.connections[connection]? with
  | none => (cluster, .error (.error (.closed "")))
  | some present =>
      match present.link with
      | .closed => (cluster, .error (.error (.closed present.addr)))
      | .disconnected =>
          (cluster, .error (.error (.network (present.addr ++ " is not connected"))))
      | .connected =>
          match cluster.nodes[present.node]? with
          | none => (cluster, .error (.error (.closed present.addr)))
          | some node =>
              let (node, outcome) := node.handle cluster.functions request
              ({ cluster with nodes := cluster.nodes.set present.node node }, outcome)

def close (cluster : Cluster) (connection : ConnectionId) : Cluster :=
  cluster.shift (fun id _ => id == connection) Link.close

/-- Lets go of connections without closing them; their nodes no longer see them. -/
def release (cluster : Cluster) (connections : List ConnectionId) : Cluster :=
  { cluster with
    connections := cluster.connections.mapIdx fun id connection =>
      if connections.contains id then { connection with held := false } else connection }

end Cluster

end ReplicaPool
