import ReplicaPool.Proofs.Upkeep.Subjects

/-!
# One connection at a time

A worker has at most one connection in its hands that is not filed: it files or closes it before it takes up
anything else. Together with the filed ones this accounts for all open connections of a pool.
-/

namespace ReplicaPool

/-- Only waiting comes before a job that has a connection in its hands. -/
def SingleHanded (agenda : List Job) : Prop :=
  agenda.Pairwise fun earlier later => earlier.waits = true ∨ later.holds? = none

def hands (agenda : List Job) : List ConnectionId :=
  agenda.filterMap Job.holds?

variable {pool : Pool} {job : Job} {rest agenda : List Job}

theorem mem_hands_iff {connection : ConnectionId} :
    connection ∈ hands agenda ↔ HeldBy agenda connection :=
  List.mem_filterMap

theorem singleHanded_nil : SingleHanded [] :=
  List.Pairwise.nil

theorem singleHanded_singleton (job : Job) : SingleHanded [job] :=
  List.pairwise_singleton _ job

/-- No job is followed by more than one that has a connection in its hands. -/
theorem singleHanded_perform (world : World) (pool : Pool) (job : Job) :
    SingleHanded (world.perform pool job).2.2 := by
  have hbegets := begets_perform world pool job
  generalize (world.perform pool job).2.2 = next at hbegets ⊢
  cases hbegets with
  | none => exact singleHanded_nil
  | one only => exact singleHanded_singleton only
  | two hands hasks hsubjects => exact List.pairwise_pair.mpr hands

/-- Behind a job that does not just wait nobody has a connection in his hands. -/
theorem SingleHanded.holds?_eq_none (hsingle : SingleHanded (job :: rest))
    (hbusy : job.waits = false) : ∀ later ∈ rest, later.holds? = none := by
  intro later hlater
  have hpair := (List.pairwise_cons.mp hsingle).1 later hlater
  rw [hbusy] at hpair
  exact hpair.resolve_left Bool.false_ne_true

theorem SingleHanded.perform (hsingle : SingleHanded (job :: rest)) (world : World) (pool : Pool) :
    SingleHanded ((world.perform pool job).2.2 ++ rest) := by
  have hrest : SingleHanded rest := (List.pairwise_cons.mp hsingle).2
  cases hwaits : job.waits with
  | true =>
      cases job with
      | wait due => exact hrest
      | _ => cases hwaits
  | false =>
      rw [SingleHanded, List.pairwise_append]
      exact ⟨singleHanded_perform world pool job, hrest, fun _ _ later hlater =>
        Or.inr (hsingle.holds?_eq_none hwaits later hlater)⟩

theorem SingleHanded.length_hands_le (hsingle : SingleHanded agenda) : (hands agenda).length ≤ 1 := by
  induction agenda with
  | nil => exact Nat.zero_le 1
  | cons job rest ih =>
      cases hholds : job.holds? with
      | none =>
          rw [hands, List.filterMap_cons_none hholds]
          exact ih (List.pairwise_cons.mp hsingle).2
      | some connection =>
          have hbusy : job.waits = false := by
            cases job with
            | wait due => cases hholds
            | _ => rfl
          have hempty : hands rest = [] :=
            List.filterMap_eq_nil_iff.mpr (hsingle.holds?_eq_none hbusy)
          rw [hands, List.filterMap_cons_some hholds, ← hands, hempty]
          exact Nat.le_refl 1

/-- Every open connection that reports to the queue of a pool is filed or in the hands of its worker. -/
theorem SoundUpkeep.mem_of_open {cluster : Cluster} {connection : ConnectionId} {present : Connection}
    (hsound : SoundUpkeep cluster pool agenda)
    (hpresent : cluster.connections[connection]? = some present) (hqueue : present.queue = pool.queue)
    (hopen : present.link ≠ .closed) :
    connection ∈ pool.topology.connections ++ hands agenda := by
  have hserves : cluster.Serves connection present.addr pool.queue :=
    ⟨present, hpresent, rfl, hqueue⟩
  rcases hsound.accounts hserves with hclosed | ⟨role, hlookup⟩ | hheld
  · rw [Cluster.link_eq hpresent] at hclosed
    exact absurd hclosed hopen
  · have hentry := hsound.sound.consistent.lookup?_eq_some_iff.mp hlookup
    exact List.mem_append_left _ (Topology.mem_connections_iff.mpr ⟨role, _, hentry⟩)
  · exact List.mem_append_right _ (mem_hands_iff.mpr hheld)

end ReplicaPool
