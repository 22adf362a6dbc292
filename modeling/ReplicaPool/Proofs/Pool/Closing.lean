import ReplicaPool.Proofs.Cluster.Evolution
import ReplicaPool.World.Basic

/-!
# Closing connections

Closing the connections of a topology closes these connections and does nothing else to the world.
-/

namespace ReplicaPool

namespace Cluster

variable {cluster : Cluster} {opened : QueueId → Prop} {connection : ConnectionId}

def closeEach (cluster : Cluster) (connections : List ConnectionId) : Cluster :=
  connections.foldl close cluster

theorem evolves_closeEach (cluster : Cluster) (connections : List ConnectionId) :
    cluster.Evolves opened (cluster.closeEach connections) := by
  induction connections generalizing cluster with
  | nil => exact .refl _
  | cons first rest ih => exact (evolves_close cluster first).trans (ih (cluster.close first))

theorem WellFormed.closeEach (hwellFormed : cluster.WellFormed) (connections : List ConnectionId) :
    (cluster.closeEach connections).WellFormed := by
  induction connections generalizing cluster with
  | nil => exact hwellFormed
  | cons first rest ih => exact ih (hwellFormed.close first)

theorem link_closeEach_of_closed (connections : List ConnectionId)
    (hclosed : cluster.link connection = .closed) :
    (cluster.closeEach connections).link connection = .closed := by
  induction connections generalizing cluster with
  | nil => exact hclosed
  | cons first rest ih =>
      apply ih
      by_cases hsame : connection = first
      · rw [hsame, link_close_self]
      · rw [link_close_of_ne hsame, hclosed]

theorem link_closeEach_of_mem {connections : List ConnectionId} (hmem : connection ∈ connections) :
    (cluster.closeEach connections).link connection = .closed := by
  induction connections generalizing cluster with
  | nil => cases hmem
  | cons first rest ih =>
      rcases List.mem_cons.mp hmem with rfl | hrest
      · exact link_closeEach_of_closed rest (link_close_self cluster connection)
      · exact ih hrest

end Cluster

namespace World

theorem closeAll_snd (world : World) (ring : RoundRobin ConnectionId) :
    (world.closeAll ring).2 =
      { world with cluster := world.cluster.closeEach (ring.members.map Prod.snd) } := by
  unfold closeAll RoundRobin.closeAll
  generalize ([] : List ConnectionError) = errors
  generalize ring.members = members
  induction members generalizing world errors with
  | nil => rfl
  | cons first rest ih => exact ih (world.close first.2).1 _

theorem closeConnections_snd (world : World) (topology : Topology) :
    (world.closeConnections topology).2 =
      { world with cluster := world.cluster.closeEach topology.connections } := by
  have hboth : (world.closeConnections topology).2 =
      ((world.closeAll topology.rw).2.closeAll topology.ro).2 := rfl
  rw [hboth, closeAll_snd, closeAll_snd]
  simp only [Cluster.closeEach, Topology.connections, List.map_append, List.foldl_append]

end World

end ReplicaPool
