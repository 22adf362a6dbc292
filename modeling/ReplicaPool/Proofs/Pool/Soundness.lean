import ReplicaPool.Proofs.Cluster.Evolution
import ReplicaPool.Proofs.Pool.Sections

/-!
# Sound pools

A pool is sound on a cluster if its topology is consistent, its managed addresses are some and distinct,
and every entry holds a connection that was dialled to the address of the entry and reports to the queue
of the pool. The guarded sections keep a pool sound. `Pool.Accounts` adds that no connection is lost: one
that reports to the queue of the pool is closed, filed, or held by whoever works on the pool.
-/

namespace ReplicaPool

/-! ### Managed addresses -/

theorem foldl_distinct (seen addrs : List String) :
    addrs.foldl (fun seen addr => if seen.contains addr then seen else seen ++ [addr]) seen =
      seen ++ (addrs.filter fun addr => !seen.contains addr).eraseDups := by
  induction addrs generalizing seen with
  | nil => simp
  | cons addr rest ih =>
      rw [List.foldl_cons]
      cases hseen : seen.contains addr with
      | true => rw [if_pos rfl, ih, List.filter_cons_of_neg (by rw [hseen]; simp)]
      | false =>
          have hrest : (rest.filter fun other => !(seen ++ [addr]).contains other) =
              (rest.filter fun other => !seen.contains other).filter fun other => !other == addr := by
            rw [List.filter_filter]
            apply List.filter_congr
            intro other _
            by_cases hother : other = addr <;> simp [hother]
          rw [if_neg Bool.false_ne_true, ih, List.filter_cons_of_pos (by rw [hseen]; rfl),
            List.eraseDups_cons, hrest, List.append_assoc, List.singleton_append]

theorem distinct_eq_eraseDups (addrs : List String) : distinct addrs = addrs.eraseDups := by
  rw [distinct, foldl_distinct]
  simp

theorem distinct_nodup (addrs : List String) : (distinct addrs).Nodup := by
  have hfold : ∀ seen : List String, seen.Nodup →
      (addrs.foldl (fun seen addr => if seen.contains addr then seen else seen ++ [addr])
        seen).Nodup := by
    induction addrs with
    | nil => exact fun seen hseen => hseen
    | cons addr rest ih =>
        intro seen hseen
        apply ih
        dsimp only
        split
        · exact hseen
        · rename_i hnew
          rw [List.nodup_append]
          refine ⟨hseen, List.nodup_singleton _, ?_⟩
          rintro old hold other hother rfl
          rw [List.mem_singleton.mp hother] at hold
          exact hnew (by simpa using hold)
  exact hfold [] List.nodup_nil

namespace Pool

variable {cluster later : Cluster} {opened : QueueId → Prop} {pool : Pool} {addr : String}
  {connection : ConnectionId} {role : Role}

structure Sound (cluster : Cluster) (pool : Pool) : Prop where
  consistent : pool.topology.Consistent
  addrs_ne_nil : pool.topology.addrs ≠ []
  addrs_nodup : pool.topology.addrs.Nodup
  serves : ∀ {addr : String} {connection : ConnectionId} {role : Role},
    pool.topology.lookup? addr = some (connection, role) →
      cluster.Serves connection addr pool.queue

theorem Sound.evolves (hsound : pool.Sound cluster) (hevolves : cluster.Evolves opened later) :
    pool.Sound later :=
  { hsound with serves := fun hlookup => hevolves.serves (hsound.serves hlookup) }

theorem Sound.congr {moved : Pool} (hsound : pool.Sound cluster)
    (hconsistent : moved.topology.Consistent) (hqueue : moved.queue = pool.queue)
    (haddrs : moved.topology.addrs = pool.topology.addrs)
    (hlookup : ∀ addr, moved.topology.lookup? addr = pool.topology.lookup? addr) :
    moved.Sound cluster where
  consistent := hconsistent
  addrs_ne_nil := haddrs ▸ hsound.addrs_ne_nil
  addrs_nodup := haddrs ▸ hsound.addrs_nodup
  serves := by
    intro addr connection role hfiled
    rw [hlookup] at hfiled
    rw [hqueue]
    exact hsound.serves hfiled

theorem sound_of_empty {addrs : List String} (hempty : pool.topology = { addrs })
    (hne : addrs ≠ []) (hnodup : addrs.Nodup) : pool.Sound cluster where
  consistent := hempty ▸ Topology.consistent_empty addrs
  addrs_ne_nil := by
    rw [hempty]
    exact hne
  addrs_nodup := by
    rw [hempty]
    exact hnodup
  serves := by
    intro addr connection role hlookup
    rw [hempty, (Topology.consistent_empty addrs).lookup?_eq_some_iff] at hlookup
    cases role <;> cases hlookup

theorem Sound.put (hsound : pool.Sound cluster) (hserves : cluster.Serves connection addr pool.queue) :
    Sound cluster { pool with topology := pool.topology.put addr connection role } where
  consistent := hsound.consistent.put
  addrs_ne_nil := by
    rw [Topology.addrs_put]
    exact hsound.addrs_ne_nil
  addrs_nodup := by
    rw [Topology.addrs_put]
    exact hsound.addrs_nodup
  serves := by
    intro other found filed hlookup
    rw [hsound.consistent.lookup?_put] at hlookup
    split at hlookup
    · rename_i hother
      subst hother
      cases hlookup
      exact hserves
    · exact hsound.serves hlookup

theorem Sound.file (hsound : pool.Sound cluster)
    (hserves : cluster.Serves connection addr pool.queue) :
    (pool.file addr connection role).1.Sound cluster := by
  rw [file_eq hsound.consistent]
  split
  · exact hsound
  · exact hsound.put hserves

theorem Sound.evict (hsound : pool.Sound cluster) : (pool.evict addr).1.Sound cluster := by
  rw [evict_eq hsound.consistent]
  split
  · exact hsound
  · refine ⟨hsound.consistent.remove, ?_, ?_, ?_⟩
    · rw [Topology.addrs_remove]
      exact hsound.addrs_ne_nil
    · rw [Topology.addrs_remove]
      exact hsound.addrs_nodup
    · intro other found filed hlookup
      rw [hsound.consistent.lookup?_remove] at hlookup
      split at hlookup
      · cases hlookup
      · exact hsound.serves hlookup

theorem Sound.relocate (hsound : pool.Sound cluster) :
    (pool.relocate addr connection role).1.Sound cluster := by
  rcases relocate_cases pool addr connection role with hsame | ⟨-, ⟨filed, hlookup⟩, hmoved⟩
  · rw [hsame]
    exact hsound
  · rw [hmoved]
    exact hsound.put (hsound.serves hlookup)

theorem Sound.setAddrs {addrs : List String} (hsound : pool.Sound cluster) (hne : addrs ≠ [])
    (hnodup : addrs.Nodup) : (pool.setAddrs addrs).Sound cluster := by
  unfold Pool.setAddrs
  split
  · exact hsound
  · have hconsistent : Topology.Consistent { pool.topology with addrs } :=
      ⟨fun role => hsound.consistent.indexed role |>.congr (by cases role <;> rfl)
        (by cases role <;> rfl), hsound.consistent.disjoint⟩
    exact ⟨hconsistent, hne, hnodup, hsound.serves⟩

@[simp]
theorem lookup?_resolve (alive : ConnectionId → Bool) (pool : Pool) (mode : Mode) (addr : String) :
    (pool.resolve alive mode).2.topology.lookup? addr = pool.topology.lookup? addr := by
  rcases (resolve_snd alive pool mode).2 with hsame | hmoved
  · rw [hsame]
  · rw [hmoved, Topology.lookup?_resolve]

theorem Sound.resolve (hsound : pool.Sound cluster) (alive : ConnectionId → Bool) (mode : Mode) :
    (pool.resolve alive mode).2.Sound cluster := by
  obtain ⟨hfields, htopology⟩ := resolve_snd alive pool mode
  refine hsound.congr ?_ ?_ ?_ (lookup?_resolve alive pool mode)
  · rcases htopology with hsame | hmoved
    · rw [hsame]
      exact hsound.consistent
    · rw [hmoved]
      exact hsound.consistent.resolve alive mode
  · rw [hfields]
  · rcases htopology with hsame | hmoved
    · rw [hsame]
    · rw [hmoved, Topology.addrs_resolve]

/-- Every connection that reports to the queue of a pool is closed, filed, or held by somebody who works
on the pool. -/
def Accounts (cluster : Cluster) (pool : Pool) (held : ConnectionId → Prop) : Prop :=
  ∀ {connection : ConnectionId} {addr : String}, cluster.Serves connection addr pool.queue →
    cluster.link connection = .closed ∨
      (∃ role, pool.topology.lookup? addr = some (connection, role)) ∨ held connection

/-- No connection has two entries: it was dialled to one address, and an address has one entry. -/
theorem Sound.connections_nodup (hsound : pool.Sound cluster) : pool.topology.connections.Nodup := by
  have hkeys : ((pool.topology.rw.members ++ pool.topology.ro.members).map Prod.fst).Nodup := by
    rw [List.map_append]
    exact hsound.consistent.addrs_nodup
  rw [Topology.connections, List.nodup_map_iff_inj_on hkeys.of_map]
  intro first hfirst second hsecond heq
  have hserves : ∀ entry ∈ pool.topology.rw.members ++ pool.topology.ro.members,
      cluster.Serves entry.2 entry.1 pool.queue := by
    intro entry hentry
    have hfiled : ∃ role, pool.topology.lookup? entry.1 = some (entry.2, role) := by
      rcases List.mem_append.mp hentry with hrw | hro
      · exact ⟨.master, hsound.consistent.lookup?_eq_some_iff.mpr hrw⟩
      · exact ⟨.replica, hsound.consistent.lookup?_eq_some_iff.mpr hro⟩
    obtain ⟨role, hfiled⟩ := hfiled
    exact hsound.serves hfiled
  have haddr : first.1 = second.1 :=
    (hserves first hfirst).addr_unique (heq ▸ hserves second hsecond)
  exact Prod.ext haddr heq

/-- A connection that a sound pool accounts for and nobody holds is closed or has exactly one entry. -/
theorem Sound.count_connections (hsound : pool.Sound cluster)
    (hlookup : pool.topology.lookup? addr = some (connection, role)) :
    pool.topology.connections.count connection = 1 := by
  have hmem : connection ∈ pool.topology.connections :=
    Topology.mem_connections_iff.mpr
      ⟨role, addr, hsound.consistent.lookup?_eq_some_iff.mp hlookup⟩
  exact List.count_eq_one_of_mem hsound.connections_nodup hmem

end Pool

end ReplicaPool
