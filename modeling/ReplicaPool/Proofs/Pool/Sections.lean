import ReplicaPool.Pool.Basic
import ReplicaPool.Proofs.Topology.Entries

/-!
# The guarded sections of a pool

What `file`, `evict`, `relocate`, `setAddrs` and `resolve` do to a pool with a consistent topology: a
closed pool stays as it is, and in an open one at most the entry of the given address changes. None of
them ever adds an address that is already there.
-/

namespace ReplicaPool

namespace Pool

variable {pool : Pool} {addr other : String} {connection : ConnectionId} {role : Role}

theorem file_eq (hconsistent : pool.topology.Consistent) :
    pool.file addr connection role =
      if pool.isClosed then (pool, .refused)
      else ({ pool with topology := pool.topology.put addr connection role },
        .filed ((pool.topology.lookup? addr).map Prod.fst)) := by
  rw [← hconsistent.remove_fst]
  rfl

theorem evict_eq (hconsistent : pool.topology.Consistent) :
    pool.evict addr =
      if pool.isClosed then (pool, none)
      else ({ pool with topology := (pool.topology.remove addr).2 },
        pool.topology.lookup? addr) := by
  rw [← hconsistent.remove_fst]
  rfl

theorem relocate_cases (pool : Pool) (addr : String) (connection : ConnectionId) (role : Role) :
    (pool.relocate addr connection role).1 = pool ∨
      (pool.isClosed = false ∧ (∃ filed, pool.topology.lookup? addr = some (connection, filed)) ∧
        (pool.relocate addr connection role).1 =
          { pool with topology := pool.topology.put addr connection role }) := by
  unfold relocate
  split
  · exact Or.inl rfl
  · rename_i hopen
    split
    · rename_i current filed hlookup
      split
      · rename_i hmoves
        obtain ⟨rfl, -⟩ := hmoves
        exact Or.inr ⟨by simpa using hopen, ⟨filed, hlookup⟩, rfl⟩
      · exact Or.inl rfl
    · exact Or.inl rfl

theorem relocate_of_ne {filed : Role} (hopen : pool.isClosed = false)
    (hlookup : pool.topology.lookup? addr = some (connection, filed)) (hne : filed ≠ role) :
    (pool.relocate addr connection role).1 =
      { pool with topology := pool.topology.put addr connection role } := by
  simp [relocate, hopen, hlookup, hne, Topology.put]

/-! ### What the sections leave alone -/

theorem queue_file (pool : Pool) (addr : String) (connection : ConnectionId) (role : Role) :
    (pool.file addr connection role).1.queue = pool.queue := by
  unfold file
  split <;> rfl

theorem queue_evict (pool : Pool) (addr : String) : (pool.evict addr).1.queue = pool.queue := by
  unfold evict
  split <;> rfl

theorem queue_relocate (pool : Pool) (addr : String) (connection : ConnectionId) (role : Role) :
    (pool.relocate addr connection role).1.queue = pool.queue := by
  rcases relocate_cases pool addr connection role with hsame | ⟨-, -, hmoved⟩
  · rw [hsame]
  · rw [hmoved]

theorem lookup?_file_of_ne (hconsistent : pool.topology.Consistent) (hne : other ≠ addr) :
    (pool.file addr connection role).1.topology.lookup? other = pool.topology.lookup? other := by
  rw [file_eq hconsistent]
  split
  · rfl
  · rw [hconsistent.lookup?_put, if_neg hne]

theorem lookup?_evict_of_ne (hconsistent : pool.topology.Consistent) (hne : other ≠ addr) :
    (pool.evict addr).1.topology.lookup? other = pool.topology.lookup? other := by
  rw [evict_eq hconsistent]
  split
  · rfl
  · rw [hconsistent.lookup?_remove, if_neg hne]

theorem lookup?_of_evict (hconsistent : pool.topology.Consistent) {entry : ConnectionId × Role}
    (hentry : (pool.evict addr).1.topology.lookup? other = some entry) :
    pool.topology.lookup? other = some entry := by
  rw [evict_eq hconsistent] at hentry
  split at hentry
  · exact hentry
  · rw [hconsistent.lookup?_remove] at hentry
    split at hentry
    · cases hentry
    · exact hentry

@[simp]
theorem lookup?_setAddrs (pool : Pool) (addrs : List String) (addr : String) :
    (pool.setAddrs addrs).topology.lookup? addr = pool.topology.lookup? addr := by
  unfold setAddrs
  split <;> rfl

theorem lookup?_relocate_of_ne (hconsistent : pool.topology.Consistent) (hne : other ≠ addr) :
    (pool.relocate addr connection role).1.topology.lookup? other =
      pool.topology.lookup? other := by
  rcases relocate_cases pool addr connection role with hsame | ⟨-, -, hmoved⟩
  · rw [hsame]
  · rw [hmoved, hconsistent.lookup?_put, if_neg hne]

/-! ### Assertions -/

theorem file?_eq (hconsistent : pool.topology.Consistent) :
    pool.file? addr connection role = some (pool.file addr connection role) := by
  have hadd : (pool.topology.remove addr).2.add? role addr connection =
      some ((pool.topology.remove addr).2.add role addr connection) :=
    hconsistent.remove.add?_eq hconsistent.lookup?_remove_self
  rcases hremove : pool.topology.remove addr with ⟨replaced, left⟩
  rw [hremove] at hadd
  simp only [file?, file, hremove, hadd, Option.map_some]
  split <;> rfl

theorem relocate?_eq (hconsistent : pool.topology.Consistent) :
    pool.relocate? addr connection role = some (pool.relocate addr connection role) := by
  have hadd : ∀ current, (pool.topology.remove addr).2.add? role addr current =
      some ((pool.topology.remove addr).2.add role addr current) :=
    fun current => hconsistent.remove.add?_eq hconsistent.lookup?_remove_self
  rcases hremove : pool.topology.remove addr with ⟨replaced, left⟩
  rw [hremove] at hadd
  simp only [relocate?, relocate, hremove, hadd, Option.map_some]
  split
  · rfl
  · split
    · split <;> rfl
    · rfl

theorem resolve_snd (alive : ConnectionId → Bool) (pool : Pool) (mode : Mode) :
    (pool.resolve alive mode).2 =
      { pool with topology := (pool.resolve alive mode).2.topology } ∧
    ((pool.resolve alive mode).2.topology = pool.topology ∨
      (pool.resolve alive mode).2.topology = (pool.topology.resolve alive mode).2) := by
  unfold resolve
  split
  · exact ⟨rfl, Or.inl rfl⟩
  · exact ⟨rfl, Or.inr rfl⟩

end Pool

end ReplicaPool
