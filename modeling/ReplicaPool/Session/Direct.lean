import ReplicaPool.Session.Nodes

/-!
# Connections without a pool

An experiment that dials the nodes of a cluster itself and keeps the connections under names. All of
them report to one queue.
-/

namespace ReplicaPool

structure DirectSession where
  cluster : Cluster
  queue : QueueId
  /-- The connections that are kept, under their names. -/
  kept : List (String × ConnectionId) := []
deriving Inhabited

inductive DirectCommand where
  | cluster (command : ClusterCommand)
  | connect (addr name : String)
  | execute (name : String) (request : Request)
  | close (name : String)
  | state (name : String)
  | release (name : String)
  | drain
  | dropQueue
deriving Inhabited

structure ConnectionState where
  addr : String
  connected : Bool
  closed : Bool
  timeout : Nat
deriving DecidableEq, Repr, Inhabited

inductive DirectReply where
  | cluster (reply : ClusterReply)
  | unknownConnection
  | connected (outcome : Except ConnectionError ConnectionState)
  | executed (outcome : Except (Failure ConnectionError) (List Json))
  | closed (state : ConnectionState)
  | state (state : ConnectionState)
  | drained (events : List Event)
  | done
deriving Inhabited

def Cluster.connectionState (cluster : Cluster) (connection : ConnectionId) : ConnectionState :=
  { addr := cluster.connectionAddr connection
    connected := cluster.isConnected connection
    closed := cluster.isClosed connection
    timeout := requestTimeout }

namespace DirectSession

def start (capacity : Nat) : DirectSession :=
  let (queue, cluster) := Cluster.addQueue {} capacity
  { cluster, queue }

/-- Keeps a connection under a name and lets go of the one that had it. -/
def keep (session : DirectSession) (name : String) (connection : ConnectionId) : DirectSession :=
  { session with
    cluster := session.cluster.release (session.kept.lookup name).toList
    kept := (name, connection) :: session.kept.filter fun entry => entry.1 != name }

def onConnection (session : DirectSession) (name : String)
    (act : ConnectionId → DirectSession × DirectReply) : DirectSession × DirectReply :=
  match session.kept.lookup name with
  | some connection => act connection
  | none => (session, .unknownConnection)

def perform (session : DirectSession) : DirectCommand → DirectSession × DirectReply
  | .cluster command =>
      let (cluster, reply) := session.cluster.steer command
      ({ session with cluster }, .cluster reply)
  | .connect addr name =>
      match session.cluster.dial addr session.queue with
      | (cluster, .ok connection) =>
          let session := { session with cluster }.keep name connection
          (session, .connected (.ok (session.cluster.connectionState connection)))
      | (cluster, .error cause) => ({ session with cluster }, .connected (.error cause))
  | .execute name request =>
      session.onConnection name fun connection =>
        let (cluster, outcome) := session.cluster.execute connection request
        ({ session with cluster }, .executed outcome)
  | .close name =>
      session.onConnection name fun connection =>
        let cluster := session.cluster.close connection
        ({ session with cluster }, .closed (cluster.connectionState connection))
  | .state name =>
      session.onConnection name fun connection =>
        (session, .state (session.cluster.connectionState connection))
  | .release name =>
      session.onConnection name fun connection =>
        ({ session with
          cluster := session.cluster.release [connection]
          kept := session.kept.filter fun entry => entry.1 != name }, .done)
  | .drain =>
      let events := (session.cluster.queues[session.queue]?.map EventQueue.pending).getD []
      ({ session with
        cluster := session.cluster.modifyQueue session.queue fun queue => queue.drain.2 },
        .drained events)
  | .dropQueue =>
      ({ session with cluster := session.cluster.modifyQueue session.queue EventQueue.dropReader },
        .done)

end DirectSession

end ReplicaPool
