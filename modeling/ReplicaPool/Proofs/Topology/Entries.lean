import ReplicaPool.Pool.Topology
import ReplicaPool.Proofs.RoundRobin.Index

/-!
# The entries of a topology

A topology files at most one connection per address, under one of the two roles. `Topology.Consistent`
says so, and that both subpools are well indexed. The subpool of replicas is only searched for an address
that no master has, so removing an address removes it for good only because of `Consistent`. Under it
`lookup?` is the whole view: `remove` forgets one address and `add` defines one.
-/

namespace ReplicaPool

namespace Topology

variable {topology : Topology} {addr other : String} {role filed : Role} {connection : ConnectionId}

@[simp]
theorem subpool_setSubpool_self (topology : Topology) (role : Role)
    (ring : RoundRobin ConnectionId) : (topology.setSubpool role ring).subpool role = ring := by
  cases role <;> rfl

theorem subpool_setSubpool_of_ne (topology : Topology) (ring : RoundRobin ConnectionId)
    (hne : filed ≠ role) : (topology.setSubpool role ring).subpool filed = topology.subpool filed := by
  cases role <;> cases filed <;> first | rfl | exact absurd rfl hne

@[simp]
theorem addrs_setSubpool (topology : Topology) (role : Role) (ring : RoundRobin ConnectionId) :
    (topology.setSubpool role ring).addrs = topology.addrs := by
  cases role <;> rfl

/-- Both subpools are well indexed and no address has entries in both. -/
structure Consistent (topology : Topology) : Prop where
  indexed : ∀ role, (topology.subpool role).Indexed
  disjoint : ∀ addr ∈ topology.rw.addrs, addr ∉ topology.ro.addrs

theorem consistent_empty (addrs : List String) : Consistent { addrs } where
  indexed := by
    intro role
    cases role <;> exact RoundRobin.indexed_empty
  disjoint := by
    intro addr hmem
    simp [RoundRobin.addrs, RoundRobin.empty] at hmem

theorem Consistent.rw_indexed (hconsistent : topology.Consistent) : topology.rw.Indexed :=
  hconsistent.indexed .master

theorem Consistent.ro_indexed (hconsistent : topology.Consistent) : topology.ro.Indexed :=
  hconsistent.indexed .replica

theorem Consistent.addrs_nodup (hconsistent : topology.Consistent) :
    (topology.rw.addrs ++ topology.ro.addrs).Nodup := by
  rw [List.nodup_append]
  refine ⟨hconsistent.rw_indexed.addrs_nodup, hconsistent.ro_indexed.addrs_nodup, ?_⟩
  rintro addr hrw other hro rfl
  exact hconsistent.disjoint addr hrw hro

theorem Consistent.eq_of_mem (hconsistent : topology.Consistent)
    (hmem : addr ∈ (topology.subpool role).addrs) (hmem' : addr ∈ (topology.subpool filed).addrs) :
    role = filed := by
  cases role <;> cases filed
  · rfl
  · exact absurd hmem' (hconsistent.disjoint addr hmem)
  · exact absurd hmem (hconsistent.disjoint addr hmem')
  · rfl

theorem Consistent.lookup?_eq_some_iff (hconsistent : topology.Consistent) :
    topology.lookup? addr = some (connection, role) ↔
      (addr, connection) ∈ (topology.subpool role).members := by
  rw [← (hconsistent.indexed role).find?_eq_some_iff, lookup?]
  cases hrw : topology.rw.find? addr with
  | none =>
      cases role with
      | master => simp [subpool, hrw]
      | replica => simp [subpool]
  | some found =>
      have hmem : addr ∈ topology.rw.addrs := by
        by_contra hnotMem
        rw [hconsistent.rw_indexed.find?_eq_none_iff.mpr hnotMem] at hrw
        cases hrw
      cases role with
      | master => simp [subpool, hrw]
      | replica =>
          have hro : topology.ro.find? addr = none :=
            hconsistent.ro_indexed.find?_eq_none_iff.mpr (hconsistent.disjoint addr hmem)
          simp [subpool, hro]

theorem Consistent.lookup?_eq_none_iff (hconsistent : topology.Consistent) :
    topology.lookup? addr = none ↔ ∀ role, addr ∉ (topology.subpool role).addrs := by
  constructor
  · intro hnone role hmem
    obtain ⟨⟨key, connection⟩, hentry, rfl⟩ := List.mem_map.mp hmem
    rw [hconsistent.lookup?_eq_some_iff.mpr hentry] at hnone
    cases hnone
  · intro habsent
    cases hlookup : topology.lookup? addr with
    | none => rfl
    | some entry =>
        have hentry := hconsistent.lookup?_eq_some_iff.mp hlookup
        exact absurd (List.mem_map.mpr ⟨_, hentry, rfl⟩) (habsent entry.2)

theorem Consistent.lookup?_congr {later : Topology} (hconsistent : topology.Consistent)
    (hlater : later.Consistent)
    (hmembers : ∀ role connection, (addr, connection) ∈ (later.subpool role).members ↔
      (addr, connection) ∈ (topology.subpool role).members) :
    later.lookup? addr = topology.lookup? addr := by
  apply Option.ext
  rintro ⟨connection, role⟩
  rw [hlater.lookup?_eq_some_iff, hconsistent.lookup?_eq_some_iff]
  exact hmembers role connection

/-! ### Removing an address -/

theorem Consistent.remove_eq (hconsistent : topology.Consistent) :
    topology.remove addr =
      match topology.lookup? addr with
      | some (connection, role) =>
          (some (connection, role),
            topology.setSubpool role ((topology.subpool role).without addr))
      | none => (none, topology) := by
  rw [remove, hconsistent.rw_indexed.remove?_eq, hconsistent.ro_indexed.remove?_eq, lookup?]
  cases topology.rw.find? addr with
  | some connection => rfl
  | none => cases topology.ro.find? addr <;> rfl

@[simp]
theorem addrs_remove (topology : Topology) (addr : String) :
    (topology.remove addr).2.addrs = topology.addrs := by
  unfold remove
  split
  · rfl
  · split <;> rfl

theorem Consistent.remove_fst (hconsistent : topology.Consistent) :
    (topology.remove addr).1 = topology.lookup? addr := by
  rw [hconsistent.remove_eq]
  cases topology.lookup? addr <;> rfl

theorem Consistent.members_remove (hconsistent : topology.Consistent) (role : Role) :
    ((topology.remove addr).2.subpool role).members =
      (topology.subpool role).members.filter (·.1 != addr) := by
  have hkept : ∀ filed, addr ∉ (topology.subpool filed).addrs →
      (topology.subpool filed).members.filter (·.1 != addr) = (topology.subpool filed).members := by
    intro filed habsent
    rw [List.filter_eq_self]
    intro entry hentry
    rw [bne_iff_ne]
    rintro rfl
    exact habsent (List.mem_map.mpr ⟨entry, hentry, rfl⟩)
  rw [hconsistent.remove_eq]
  cases hlookup : topology.lookup? addr with
  | none => exact (hkept role (hconsistent.lookup?_eq_none_iff.mp hlookup role)).symm
  | some entry =>
      have hmem : addr ∈ (topology.subpool entry.2).addrs :=
        List.mem_map.mpr ⟨_, hconsistent.lookup?_eq_some_iff.mp hlookup, rfl⟩
      by_cases hrole : role = entry.2
      · subst hrole
        simp [RoundRobin.without]
      · simp only [subpool_setSubpool_of_ne _ _ hrole]
        exact (hkept role fun hother => hrole (hconsistent.eq_of_mem hother hmem)).symm

theorem Consistent.remove (hconsistent : topology.Consistent) :
    (topology.remove addr).2.Consistent where
  indexed := by
    intro role
    rw [hconsistent.remove_eq]
    cases topology.lookup? addr with
    | none => exact hconsistent.indexed role
    | some entry =>
        by_cases hrole : role = entry.2
        · subst hrole
          simpa using (hconsistent.indexed entry.2).without
        · simpa [subpool_setSubpool_of_ne _ _ hrole] using hconsistent.indexed role
  disjoint := by
    intro key hrw hro
    have hkept : ∀ role, key ∈ ((topology.remove addr).2.subpool role).addrs →
        key ∈ (topology.subpool role).addrs := by
      intro role hmem
      obtain ⟨entry, hentry, rfl⟩ := List.mem_map.mp hmem
      rw [hconsistent.members_remove] at hentry
      exact List.mem_map.mpr ⟨entry, List.mem_of_mem_filter hentry, rfl⟩
    exact hconsistent.disjoint key (hkept .master hrw) (hkept .replica hro)

theorem Consistent.lookup?_remove (hconsistent : topology.Consistent) :
    (topology.remove addr).2.lookup? other =
      if other = addr then none else topology.lookup? other := by
  by_cases hother : other = addr
  · subst hother
    rw [if_pos rfl, hconsistent.remove.lookup?_eq_none_iff]
    intro role hmem
    obtain ⟨entry, hentry, hkey⟩ := List.mem_map.mp hmem
    rw [hconsistent.members_remove, List.mem_filter] at hentry
    simp [hkey] at hentry
  · rw [if_neg hother]
    refine hconsistent.lookup?_congr hconsistent.remove fun role connection => ?_
    rw [hconsistent.members_remove, List.mem_filter]
    simp [hother]

/-! ### Adding an address -/

@[simp]
theorem addrs_add (topology : Topology) (role : Role) (addr : String) (connection : ConnectionId) :
    (topology.add role addr connection).addrs = topology.addrs :=
  addrs_setSubpool _ _ _

theorem members_add (topology : Topology) (role filed : Role) (addr : String)
    (connection : ConnectionId) :
    ((topology.add role addr connection).subpool filed).members =
      (topology.subpool filed).members ++ if filed = role then [(addr, connection)] else [] := by
  unfold add
  by_cases hrole : filed = role
  · subst hrole
    simp
  · simp [subpool_setSubpool_of_ne _ _ hrole, hrole]

theorem Consistent.add (hconsistent : topology.Consistent) (hnew : topology.lookup? addr = none) :
    (topology.add role addr connection).Consistent where
  indexed := by
    intro filed
    have habsent := hconsistent.lookup?_eq_none_iff.mp hnew role
    by_cases hrole : filed = role
    · subst hrole
      simpa [Topology.add] using (hconsistent.indexed filed).add habsent
    · simpa [Topology.add, subpool_setSubpool_of_ne _ _ hrole] using hconsistent.indexed filed
  disjoint := by
    intro key hrw hro
    have habsent := hconsistent.lookup?_eq_none_iff.mp hnew
    have hold : ∀ filed, key ∈ ((topology.add role addr connection).subpool filed).addrs →
        key ∈ (topology.subpool filed).addrs ∨ (key = addr ∧ filed = role) := by
      intro filed hmem
      rw [RoundRobin.addrs, members_add, List.map_append, List.mem_append] at hmem
      refine hmem.imp_right fun hnewMem => ?_
      split at hnewMem
      · rename_i hrole
        exact ⟨by simpa using hnewMem, hrole⟩
      · cases hnewMem
    rcases hold .master hrw with hmaster | ⟨rfl, hmaster⟩
    · rcases hold .replica hro with hreplica | ⟨rfl, -⟩
      · exact hconsistent.disjoint key hmaster hreplica
      · exact habsent .master hmaster
    · rcases hold .replica hro with hreplica | ⟨-, hreplica⟩
      · exact habsent .replica hreplica
      · rw [← hmaster] at hreplica
        cases hreplica

theorem Consistent.lookup?_add (hconsistent : topology.Consistent)
    (hnew : topology.lookup? addr = none) :
    (topology.add role addr connection).lookup? other =
      if other = addr then some (connection, role) else topology.lookup? other := by
  by_cases hother : other = addr
  · subst hother
    rw [if_pos rfl, (hconsistent.add hnew).lookup?_eq_some_iff, members_add]
    simp
  · rw [if_neg hother]
    refine hconsistent.lookup?_congr (hconsistent.add hnew) fun filed candidate => ?_
    rw [members_add, List.mem_append]
    split <;> simp [hother]

theorem Consistent.add?_eq (hconsistent : topology.Consistent)
    (hnew : topology.lookup? addr = none) :
    topology.add? role addr connection = some (topology.add role addr connection) := by
  have habsent := hconsistent.lookup?_eq_none_iff.mp hnew role
  have hcontains : (topology.subpool role).contains addr = false := by
    rw [Bool.eq_false_iff, ne_eq, (hconsistent.indexed role).contains_iff]
    exact habsent
  simp [add?, RoundRobin.add?, hcontains, Topology.add]

/-! ### Defining an address -/

/-- The topology in which an address has the given entry, at the end of its subpool. -/
def put (topology : Topology) (addr : String) (connection : ConnectionId) (role : Role) : Topology :=
  (topology.remove addr).2.add role addr connection

@[simp]
theorem addrs_put (topology : Topology) (addr : String) (connection : ConnectionId) (role : Role) :
    (topology.put addr connection role).addrs = topology.addrs := by
  rw [put, addrs_add, addrs_remove]

theorem Consistent.lookup?_remove_self (hconsistent : topology.Consistent) :
    (topology.remove addr).2.lookup? addr = none := by
  rw [hconsistent.lookup?_remove, if_pos rfl]

theorem Consistent.put (hconsistent : topology.Consistent) :
    (topology.put addr connection role).Consistent :=
  hconsistent.remove.add hconsistent.lookup?_remove_self

/-- An address without an entry gets one at the end of a subpool, and all other entries stay. -/
theorem Consistent.members_put_of_absent (hconsistent : topology.Consistent)
    (habsent : topology.lookup? addr = none) (filed : Role) :
    ((topology.put addr connection role).subpool filed).members =
      (topology.subpool filed).members ++ if filed = role then [(addr, connection)] else [] := by
  rw [Topology.put, members_add, hconsistent.remove_eq, habsent]

theorem Consistent.lookup?_put (hconsistent : topology.Consistent) :
    (topology.put addr connection role).lookup? other =
      if other = addr then some (connection, role) else topology.lookup? other := by
  rw [Topology.put, hconsistent.remove.lookup?_add hconsistent.lookup?_remove_self,
    hconsistent.lookup?_remove]
  split <;> rfl

/-! ### Routing -/

theorem members_resolve (alive : ConnectionId → Bool) (topology : Topology) (mode : Mode)
    (role : Role) :
    ((topology.resolve alive mode).2.subpool role).members = (topology.subpool role).members ∧
      ((topology.resolve alive mode).2.subpool role).positions =
        (topology.subpool role).positions := by
  unfold resolve
  cases topology.choose mode with
  | error cause => exact ⟨rfl, rfl⟩
  | ok chosen =>
      have hmoved : (topology.setSubpool chosen
          ((topology.subpool chosen).next alive).2 |>.subpool role).members =
            (topology.subpool role).members ∧
          (topology.setSubpool chosen
            ((topology.subpool chosen).next alive).2 |>.subpool role).positions =
            (topology.subpool role).positions := by
        by_cases hrole : role = chosen
        · subst hrole
          simpa using RoundRobin.next_snd alive (topology.subpool role)
        · simp [subpool_setSubpool_of_ne _ _ hrole]
      simp only
      split <;> exact hmoved

@[simp]
theorem addrs_resolve (alive : ConnectionId → Bool) (topology : Topology) (mode : Mode) :
    (topology.resolve alive mode).2.addrs = topology.addrs := by
  unfold resolve
  cases topology.choose mode with
  | error cause => rfl
  | ok chosen =>
      simp only
      split <;> exact addrs_setSubpool _ _ _

theorem Consistent.resolve (hconsistent : topology.Consistent) (alive : ConnectionId → Bool)
    (mode : Mode) : (topology.resolve alive mode).2.Consistent where
  indexed := by
    intro role
    obtain ⟨hmembers, hpositions⟩ := members_resolve alive topology mode role
    exact (hconsistent.indexed role).congr hmembers hpositions
  disjoint := by
    have hrw := (members_resolve alive topology mode .master).1
    have hro := (members_resolve alive topology mode .replica).1
    simp only [subpool] at hrw hro
    simp only [RoundRobin.addrs, hrw, hro]
    exact hconsistent.disjoint

@[simp]
theorem lookup?_resolve (alive : ConnectionId → Bool) (topology : Topology) (mode : Mode)
    (addr : String) : (topology.resolve alive mode).2.lookup? addr = topology.lookup? addr := by
  have hrw := members_resolve alive topology mode .master
  have hro := members_resolve alive topology mode .replica
  simp only [subpool] at hrw hro
  simp only [lookup?, RoundRobin.find?, hrw.1, hrw.2, hro.1, hro.2]

/-! ### Connections -/

theorem mem_connections_iff : connection ∈ topology.connections ↔
    ∃ role addr, (addr, connection) ∈ (topology.subpool role).members := by
  simp only [connections, List.mem_map, List.mem_append]
  constructor
  · rintro ⟨⟨addr, connection⟩, hmem | hmem, rfl⟩
    · exact ⟨.master, addr, hmem⟩
    · exact ⟨.replica, addr, hmem⟩
  · rintro ⟨role, addr, hmem⟩
    refine ⟨(addr, connection), ?_, rfl⟩
    cases role
    · exact Or.inl hmem
    · exact Or.inr hmem

end Topology

end ReplicaPool
