import ReplicaPool.Proofs.Pool.Sections

/-!
# The order of the entries

A guarded section takes the entry at one address out and puts the new one, if there is one, at the end of its
subpool. `Topology.Redefines` says so of the members of both subpools: all other entries keep their
connections, their roles and their order.
-/

namespace ReplicaPool

namespace Topology

variable {topology later : Topology} {addr other : String} {connection : ConnectionId} {role : Role}
  {entry : Option (ConnectionId × Role)}

def newcomer (addr : String) (entry : Option (ConnectionId × Role)) (role : Role) :
    List (String × ConnectionId) :=
  match entry with
  | some (connection, filed) => if role = filed then [(addr, connection)] else []
  | none => []

/-- The entry at an address gives way to another one, or to none, and all others stay as they are. -/
def Redefines (topology : Topology) (addr : String) (entry : Option (ConnectionId × Role))
    (later : Topology) : Prop :=
  ∀ role, (later.subpool role).members =
    (topology.subpool role).members.filter (·.1 != addr) ++ newcomer addr entry role

theorem Consistent.redefines_remove (hconsistent : topology.Consistent) (addr : String) :
    topology.Redefines addr none (topology.remove addr).2 := by
  intro role
  rw [hconsistent.members_remove, newcomer, List.append_nil]

theorem Consistent.redefines_put (hconsistent : topology.Consistent) (addr : String)
    (connection : ConnectionId) (role : Role) :
    topology.Redefines addr (some (connection, role)) (topology.put addr connection role) := by
  intro filed
  rw [Topology.put, members_add, hconsistent.members_remove, newcomer]

theorem mem_newcomer_iff : (other, connection) ∈ newcomer addr entry role ↔
    other = addr ∧ entry = some (connection, role) := by
  unfold newcomer
  split
  · rename_i found filed
    by_cases hrole : role = filed
    · simp [hrole, Prod.ext_iff, eq_comm]
    · simp [hrole, Ne.symm hrole]
  · simp

theorem Redefines.lookup?_eq (hredefines : topology.Redefines addr entry later)
    (hconsistent : topology.Consistent) (hlater : later.Consistent) (other : String) :
    later.lookup? other = if other = addr then entry else topology.lookup? other := by
  apply Option.ext
  rintro ⟨connection, role⟩
  rw [hlater.lookup?_eq_some_iff, hredefines role, List.mem_append, List.mem_filter,
    mem_newcomer_iff]
  by_cases hother : other = addr
  · simp [hother]
  · simp [hother, hconsistent.lookup?_eq_some_iff]

inductive Edits (topology later : Topology) : Prop
  | same (hmembers : ∀ role, (later.subpool role).members = (topology.subpool role).members)
  | redefined (addr : String) (entry : Option (ConnectionId × Role))
      (hredefines : topology.Redefines addr entry later)

/-- An address with an entry is found in the subpool of its role and not in the other one. -/
theorem Consistent.find?_subpool (hconsistent : topology.Consistent)
    (hlookup : topology.lookup? addr = some (connection, role)) (filed : Role) :
    (topology.subpool filed).find? addr = if filed = role then some connection else none := by
  have hmem := hconsistent.lookup?_eq_some_iff.mp hlookup
  by_cases hrole : filed = role
  · rw [if_pos hrole, hrole]
    exact (hconsistent.indexed role).find?_eq_some_iff.mpr hmem
  · rw [if_neg hrole, (hconsistent.indexed filed).find?_eq_none_iff]
    exact fun hother => hrole (hconsistent.eq_of_mem hother (List.mem_map.mpr ⟨_, hmem, rfl⟩))

end Topology

namespace Pool

variable {pool : Pool}

structure Orderly (pool : Pool) : Prop where
  file : pool.isClosed = false → ∀ addr connection role,
    pool.topology.Redefines addr (some (connection, role))
      (pool.file addr connection role).1.topology
  evict : pool.isClosed = false → ∀ addr,
    pool.topology.Redefines addr none (pool.evict addr).1.topology
  relocate : ∀ addr connection role, (pool.relocate addr connection role).1 = pool ∨
    (∃ filed, pool.topology.lookup? addr = some (connection, filed)) ∧
      pool.topology.Redefines addr (some (connection, role))
        (pool.relocate addr connection role).1.topology
  closed : pool.isClosed = true → ∀ addr connection role,
    (pool.file addr connection role).1 = pool ∧ (pool.evict addr).1 = pool ∧
      (pool.relocate addr connection role).1 = pool

theorem orderly (hconsistent : pool.topology.Consistent) : pool.Orderly where
  file := by
    intro hopen addr connection role
    rw [file_eq hconsistent, hopen]
    exact hconsistent.redefines_put addr connection role
  evict := by
    intro hopen addr
    rw [evict_eq hconsistent, hopen]
    exact hconsistent.redefines_remove addr
  relocate := by
    intro addr connection role
    rcases relocate_cases pool addr connection role with hsame | ⟨-, hfiled, hput⟩
    · exact Or.inl hsame
    · rw [hput]
      exact Or.inr ⟨hfiled, hconsistent.redefines_put addr connection role⟩
  closed := by
    intro hclosed addr connection role
    simp [Pool.file, Pool.evict, Pool.relocate, hclosed]

end Pool

end ReplicaPool
