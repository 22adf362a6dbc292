import ReplicaPool.Proofs.Pool.Order
import ReplicaPool.Proofs.Pool.Routing
import ReplicaPool.Proofs.Upkeep.Subjects

/-!
# Entries come and go once

A job changes the entry at one of its addresses at most. When it drops the entry, no job of the worker touches
the address any more, so the address has no entry until the worker has finished: `Forgone`.
-/

namespace ReplicaPool

variable {world : World} {pool : Pool} {job : Job} {rest agenda : List Job} {addr : String}

inductive World.Rewrites (world : World) (pool : Pool) (job : Job) : Prop
  | same (hmembers : ∀ role, ((world.perform pool job).2.1.topology.subpool role).members =
      (pool.topology.subpool role).members)
  | redefined (addr : String) (entry : Option (ConnectionId × Role)) (hmem : addr ∈ job.subjects)
      (hredefines : pool.topology.Redefines addr entry (world.perform pool job).2.1.topology)
      (hdropped : entry = none → ∀ follower ∈ (world.perform pool job).2.2, ¬follower.Touches addr)

theorem World.rewrites_perform (hconsistent : pool.topology.Consistent)
    (hnodup : job.subjects.Nodup) : world.Rewrites pool job := by
  have horderly := Pool.orderly hconsistent
  cases job with
  | refresh addrs =>
      cases addrs with
      | nil => exact .same fun _ => rfl
      | cons addr addrs =>
          refine .same fun role => ?_
          simp only [World.perform]
          split <;> rfl
  | discover =>
      refine .same fun role => ?_
      simp only [World.perform]
      split
      · rfl
      · cases (pool.resolve world.isConnected .rw).1 <;>
          exact (Pool.sameEntries_resolve _ pool .rw).members role
  | learn connection script =>
      refine .same fun role => ?_
      simp only [World.perform]
      split <;> rfl
  | reconcile fresh gone members =>
      cases fresh with
      | cons addr fresh =>
          refine .same fun role => ?_
          simp only [World.perform]
          split <;> rfl
      | nil =>
          cases gone with
          | nil =>
              refine .same fun role => ?_
              simp only [World.perform, Pool.setAddrs]
              split
              · rfl
              · cases role <;> rfl
          | cons addr gone =>
              cases hclosed : pool.isClosed with
              | true =>
                  refine .same fun role => ?_
                  simp only [World.perform, ((horderly.closed hclosed addr 0 .master).2).1]
              | false =>
                  -- The address does not occur among those that are still to be dropped.
                  refine .redefined addr none List.mem_cons_self (horderly.evict hclosed addr) ?_
                  rintro - follower hmem (hasks | hagain)
                  · rw [asks_perform rfl hmem] at hasks
                    cases hasks
                  · rcases List.mem_append.mp hmem with hclosing | hlast
                    · obtain ⟨removed, -, rfl⟩ := List.mem_map.mp hclosing
                      cases hagain
                    · rw [List.mem_singleton.mp hlast] at hagain
                      exact (List.nodup_cons.mp hnodup).1 hagain
  | fail addr purpose =>
      cases purpose with
      | enlist => exact .same fun _ => rfl
      | reopen =>
          cases hclosed : pool.isClosed with
          | true =>
              refine .same fun role => ?_
              simp only [World.perform, ((horderly.closed hclosed addr 0 .master).2).1]
          | false =>
              exact .redefined addr none List.mem_cons_self (horderly.evict hclosed addr)
                fun _ _ hmem => absurd hmem List.not_mem_nil
  | offer addr connection role =>
      cases hclosed : pool.isClosed with
      | true =>
          refine .same fun filed => ?_
          simp only [World.perform, (horderly.closed hclosed addr connection role).1]
      | false =>
          exact .redefined addr _ List.mem_cons_self (horderly.file hclosed addr connection role)
            fun hnone => by cases hnone
  | relocate addr connection role =>
      rcases horderly.relocate addr connection role with hsame | ⟨-, hredefines⟩
      · refine .same fun filed => ?_
        simp only [World.perform, hsame]
      · exact .redefined addr _ List.mem_cons_self hredefines fun hnone => by cases hnone
  | _ => exact .same fun _ => rfl

theorem World.Rewrites.edits (hrewrites : world.Rewrites pool job) :
    pool.topology.Edits (world.perform pool job).2.1.topology := by
  cases hrewrites with
  | same hmembers => exact .same hmembers
  | redefined addr entry hmem hredefines hdropped => exact .redefined addr entry hredefines

/-- An address has no entry, and no job of an agenda will give it one. -/
def Forgone (pool : Pool) (agenda : List Job) (addr : String) : Prop :=
  pool.topology.lookup? addr = none ∧ ∀ job ∈ agenda, ¬job.Touches addr

section Perform

variable (hconsistent : pool.topology.Consistent)
  (hlater : (world.perform pool job).2.1.topology.Consistent) (hapart : Apart (job :: rest))

include hconsistent hlater hapart

/-- An address whose entry a job drops stays without one. -/
theorem forgone_of_dropped {entry : ConnectionId × Role}
    (hentry : pool.topology.lookup? addr = some entry)
    (hnone : (world.perform pool job).2.1.topology.lookup? addr = none) :
    Forgone (world.perform pool job).2.1 ((world.perform pool job).2.2 ++ rest) addr := by
  have hrewrites : world.Rewrites pool job :=
    World.rewrites_perform hconsistent (hapart.nodup job List.mem_cons_self)
  refine ⟨hnone, ?_⟩
  cases hrewrites with
  | same hmembers =>
      rw [hconsistent.lookup?_congr hlater fun role _ => by rw [hmembers role], hentry] at hnone
      cases hnone
  | redefined target dropped hmem hredefines hdropped =>
      rw [hredefines.lookup?_eq hconsistent hlater, hentry] at hnone
      by_cases htarget : addr = target
      · subst htarget
        rw [if_pos rfl] at hnone
        intro follower hfollower
        rcases List.mem_append.mp hfollower with hnext | hrest
        · exact hdropped hnone follower hnext
        · exact (List.pairwise_cons.mp hapart.disjoint).1 follower hrest addr (Or.inr hmem)
      · rw [if_neg htarget] at hnone
        cases hnone

theorem Forgone.perform (hforgone : Forgone pool (job :: rest) addr) :
    Forgone (world.perform pool job).2.1 ((world.perform pool job).2.2 ++ rest) addr := by
  obtain ⟨hnone, huntouched⟩ := hforgone
  obtain ⟨hjob, hrest⟩ := List.forall_mem_cons.mp huntouched
  have hrewrites : world.Rewrites pool job :=
    World.rewrites_perform hconsistent (hapart.nodup job List.mem_cons_self)
  refine ⟨?_, List.forall_mem_append.mpr
    ⟨fun follower hmem htouches => hjob (htouches.of_follower hmem), hrest⟩⟩
  cases hrewrites with
  | same hmembers =>
      rw [hconsistent.lookup?_congr hlater fun role _ => by rw [hmembers role], hnone]
  | redefined target entry hmem hredefines hdropped =>
      have htarget : addr ≠ target := by
        rintro rfl
        exact hjob (Or.inr hmem)
      rw [hredefines.lookup?_eq hconsistent hlater, if_neg htarget, hnone]

end Perform

end ReplicaPool
