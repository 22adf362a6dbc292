import ReplicaPool.Proofs.System.Invariant

/-!
# Integrity of reachable systems

In every reachable system the topology of every pool is intact at all times, and no connection gets lost.
-/

namespace ReplicaPool

namespace System

variable {system : System} {pool : Pool}

theorem Sound.pool_of_mem (hsound : system.Sound) (hpool : pool ∈ system.pools) :
    pool.Sound system.world.cluster := by
  rcases List.mem_append.mp hpool with hservice | hbuild
  · obtain ⟨present, hpresent, rfl⟩ := List.mem_map.mp hservice
    obtain ⟨service, hservice⟩ := List.mem_iff_getElem?.mp hpresent
    exact hsound.pool_sound hservice
  · obtain ⟨call, hmem, hpool⟩ := List.mem_filterMap.mp hbuild
    obtain ⟨place, hcall⟩ := List.mem_iff_getElem?.mp hmem
    have hcallSound := hsound.calls hcall
    cases call with
    | reach building slots =>
        cases hpool
        exact Pool.Expects.sound hcallSound
    | fill building alive attempts =>
        cases hpool
        exact Pool.Expects.sound hcallSound
    | built queue outcome => cases hpool
    | close service pending complaints => cases hpool
    | closed service complaints => cases hpool

/-- Some managed addresses, all different; no address twice in the subpools; an index that is exact; and
entries under the addresses that their connections were dialled with. An address is never added to a
subpool that has it. -/
theorem topology_intact (hreachable : system.Reachable) (hpool : pool ∈ system.pools) :
    pool.topology.addrs ≠ [] ∧ pool.topology.addrs.Nodup ∧
      (pool.topology.rw.addrs ++ pool.topology.ro.addrs).Nodup ∧
      (∀ role addr index, (pool.topology.subpool role).positions.lookup addr = some index ↔
        (pool.topology.subpool role).addrs[index]? = some addr) ∧
      (∀ role, ∀ entry ∈ (pool.topology.subpool role).members,
        entry.2 < system.world.cluster.connections.length ∧
          system.world.cluster.connectionAddr entry.2 = entry.1) ∧
      (∀ addr connection role,
        pool.file? addr connection role = some (pool.file addr connection role)) ∧
      ∀ addr connection role,
        pool.relocate? addr connection role = some (pool.relocate addr connection role) := by
  have hsound := hreachable.sound.pool_of_mem hpool
  have hconsistent := hsound.consistent
  refine ⟨hsound.addrs_ne_nil, hsound.addrs_nodup, hconsistent.addrs_nodup,
    hconsistent.indexed, ?_, fun _ _ _ => Pool.file?_eq hconsistent,
    fun _ _ _ => Pool.relocate?_eq hconsistent⟩
  intro role entry hentry
  have hserves := hsound.serves (hconsistent.lookup?_eq_some_iff.mpr hentry)
  exact ⟨hserves.lt_length, hserves.connectionAddr_eq⟩

def soloRun : List Action :=
  .change (.addNode "127.0.0.1:3301" false) :: .prepare ["127.0.0.1:3301"] {} ::
    List.replicate 5 (.advance 0 0)

/-- Two masters and, at the last address, a replica. -/
def trioRun : List Action :=
  let addrs := ["127.0.0.1:3301", "127.0.0.1:3302", "127.0.0.1:3303"]
  addrs.map (fun addr => .change (.addNode addr (addr == "127.0.0.1:3303"))) ++ [.prepare addrs {}] ++
    [0, 0, 1, 1, 2, 2].map (.advance 0) ++ List.replicate 5 (.advance 0 0)

/-- The second master stops, is missed and comes back; the first one turns replica. A refresh is due. -/
def failoverRun : List Action :=
  trioRun ++ [.change (.stop 1)] ++ List.replicate 8 (.upkeep 0) ++
    [.change (.start 1), .change (.setReadOnly 0 true), .elapse 1000]

/-- The refresh has moved the first master and redialled the second, which is not filed yet. -/
theorem topology_intact_failover :
    ∃ pool ∈ (run {} (failoverRun ++ List.replicate 10 (.upkeep 0))).pools,
      pool.topology.rw.members = [] ∧
      pool.topology.ro.members = [("127.0.0.1:3303", 2), ("127.0.0.1:3301", 0)] ∧
      pool.topology.addrs.Nodup ∧
      (pool.topology.rw.addrs ++ pool.topology.ro.addrs).Nodup ∧
      pool.file? "127.0.0.1:3302" 3 .master = some (pool.file "127.0.0.1:3302" 3 .master) := by
  have hservice : (run {} (failoverRun ++ List.replicate 10 (.upkeep 0))).world.services[0]?.map
      (fun present => (present.pool.topology.rw.members, present.pool.topology.ro.members)) =
      some ([], [("127.0.0.1:3303", 2), ("127.0.0.1:3301", 0)]) := by
    decide +kernel
  obtain ⟨present, hpresent, hvalues⟩ := Option.map_eq_some_iff.mp hservice
  obtain ⟨hrw, hro⟩ := Prod.mk.inj hvalues
  have hpool : present.pool ∈ (run {} (failoverRun ++ List.replicate 10 (.upkeep 0))).pools :=
    List.mem_append_left _ (List.mem_map_of_mem (List.mem_of_getElem? hpresent))
  obtain ⟨-, haddrs, hentries, -, -, hfile, -⟩ := topology_intact ⟨_, rfl⟩ hpool
  exact ⟨present.pool, hpool, hrw, hro, haddrs, hentries, hfile _ _ _⟩

/-- Every connection that was ever dialled reports to the queue of some pool. If nobody works on that
pool, the connection is closed or has exactly one entry; and if the pool could not be built, it is
closed. -/
theorem no_connection_lost (hreachable : system.Reachable) :
    (∀ connection < system.world.cluster.connections.length, ∃ addr queue,
      system.world.cluster.Serves connection addr queue ∧
        ((∃ present ∈ system.world.services, present.pool.queue = queue) ∨
          (∃ call ∈ system.calls, ∃ pool, call.pool? = some pool ∧ pool.queue = queue) ∨
          ∃ cause, .built queue (.error cause) ∈ system.calls)) ∧
      (∀ present ∈ system.world.services, present.upkeep.agenda = [] →
        ∀ connection addr, system.world.cluster.Serves connection addr present.pool.queue →
          system.world.cluster.link connection = .closed ∨
            present.pool.topology.connections.count connection = 1) ∧
      ∀ queue cause, .built queue (.error cause) ∈ system.calls →
        ∀ connection addr, system.world.cluster.Serves connection addr queue →
          system.world.cluster.link connection = .closed := by
  have hsound := hreachable.sound
  refine ⟨?_, ?_, ?_⟩
  · intro connection hlt
    have hserves : system.world.cluster.Serves connection
        system.world.cluster.connections[connection].addr
        system.world.cluster.connections[connection].queue :=
      ⟨_, List.getElem?_eq_getElem hlt, rfl, rfl⟩
    refine ⟨_, _, hserves, ?_⟩
    rcases List.mem_append.mp (hsound.owned hserves) with hservice | hcall
    · exact Or.inl (List.mem_map.mp hservice)
    · obtain ⟨call, hmem, hqueue⟩ := List.mem_filterMap.mp hcall
      cases call with
      | reach pool slots => exact Or.inr (Or.inl ⟨_, hmem, pool, rfl, Option.some.inj hqueue⟩)
      | fill pool alive attempts =>
          exact Or.inr (Or.inl ⟨_, hmem, pool, rfl, Option.some.inj hqueue⟩)
      | built queue outcome =>
          cases outcome with
          | ok service => cases hqueue
          | error cause => exact Or.inr (Or.inr ⟨cause, Option.some.inj hqueue ▸ hmem⟩)
      | close service pending complaints => cases hqueue
      | closed service complaints => cases hqueue
  · intro present hmem hidle connection addr hserves
    obtain ⟨service, hpresent⟩ := List.mem_iff_getElem?.mp hmem
    have hupkeep := hsound.upkeep hpresent
    rw [hidle] at hupkeep
    exact hupkeep.closed_or_count hserves
  · intro queue cause hmem connection addr hserves
    obtain ⟨place, hcall⟩ := List.mem_iff_getElem?.mp hmem
    exact hsound.calls hcall connection addr hserves

/-- The refresh is over, and the worker waits for its next tick. -/
def recoveredRun : List Action :=
  failoverRun ++ List.replicate 16 (.upkeep 0)

/-- Four connections were dialled. The one to the master that stopped is closed, and its successor filed. -/
theorem no_connection_lost_recovered :
    ∃ present ∈ (run {} recoveredRun).world.services,
      (∀ connection < 4, (run {} recoveredRun).world.cluster.link connection = .closed ∨
        present.pool.topology.connections.count connection = 1) ∧
      (run {} recoveredRun).world.cluster.link 1 = .closed ∧
      present.pool.topology.connections.count 3 = 1 := by
  have hservice : (run {} recoveredRun).world.services[0]?.map
      (fun present => (present.upkeep.agenda.isEmpty, present.pool.queue)) = some (true, 0) := by
    decide +kernel
  have hdialled : (run {} recoveredRun).world.cluster.connections.length = 4 ∧
      (∀ entry ∈ (run {} recoveredRun).world.cluster.connections, entry.queue = 0) ∧
      (run {} recoveredRun).world.cluster.link 1 = .closed ∧
      (run {} recoveredRun).world.cluster.link 3 ≠ .closed := by
    decide +kernel
  obtain ⟨present, hpresent, hvalues⟩ := Option.map_eq_some_iff.mp hservice
  obtain ⟨hidle, hqueue⟩ := Prod.mk.inj hvalues
  obtain ⟨hlength, hqueues, hstopped, hopen⟩ := hdialled
  have hmem := List.mem_of_getElem? hpresent
  have hkept : ∀ connection < 4, (run {} recoveredRun).world.cluster.link connection = .closed ∨
      present.pool.topology.connections.count connection = 1 := by
    intro connection hlt
    rw [← hlength] at hlt
    exact (no_connection_lost ⟨recoveredRun, rfl⟩).2.1 present hmem (List.isEmpty_iff.mp hidle)
      connection _ ⟨_, List.getElem?_eq_getElem hlt, rfl,
        (hqueues _ (List.getElem_mem hlt)).trans hqueue.symm⟩
  exact ⟨present, hmem, hkept, hstopped, (hkept 3 (by decide)).resolve_left hopen⟩

end System

end ReplicaPool
