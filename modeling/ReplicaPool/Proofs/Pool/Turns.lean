import ReplicaPool.Proofs.Pool.Routing
import ReplicaPool.Proofs.RoundRobin.Turns
import ReplicaPool.World.Upkeep

/-!
# Who moves the cursors of a pool

Routing a mode is one turn of the subpool that the mode is routed to, and leaves the other subpool alone.
Nothing else moves a cursor: neither the sections that edit the entries of a pool nor any other piece of
upkeep.
-/

namespace ReplicaPool

namespace Topology

variable {topology : Topology} {addr : String} {connection : ConnectionId} {role filed : Role}

theorem cursor_setSubpool {ring : RoundRobin ConnectionId}
    (hcursor : ring.cursor = (topology.subpool role).cursor) :
    ((topology.setSubpool role ring).subpool filed).cursor = (topology.subpool filed).cursor := by
  by_cases hsame : filed = role
  · subst hsame
    rw [subpool_setSubpool_self, hcursor]
  · rw [subpool_setSubpool_of_ne topology ring hsame]

theorem cursor_remove (topology : Topology) (addr : String) (role : Role) :
    ((topology.remove addr).2.subpool role).cursor = (topology.subpool role).cursor := by
  have hring : ∀ {ring later : RoundRobin ConnectionId} {removed : ConnectionId},
      ring.remove? addr = some (removed, later) → later.cursor = ring.cursor := by
    intro ring later removed hremove
    simp only [RoundRobin.remove?, Option.bind_eq_bind, Option.bind_eq_some_iff] at hremove
    obtain ⟨index, -, entry, -, hlater⟩ := hremove
    cases hlater
    rfl
  unfold remove
  split
  · rename_i removed rw hremove
    have hcursor : rw.cursor = (topology.subpool .master).cursor := hring hremove
    exact cursor_setSubpool hcursor
  · split
    · rename_i removed ro hremove
      have hcursor : ro.cursor = (topology.subpool .replica).cursor := hring hremove
      exact cursor_setSubpool hcursor
    · rfl

theorem cursor_add (topology : Topology) (filed : Role) (addr : String) (connection : ConnectionId)
    (role : Role) :
    ((topology.add filed addr connection).subpool role).cursor = (topology.subpool role).cursor :=
  cursor_setSubpool rfl

end Topology

namespace Pool

variable {pool : Pool} {alive : ConnectionId → Bool} {mode : Mode} {role : Role}

/-! ### Sections -/

theorem cursor_file (pool : Pool) (addr : String) (connection : ConnectionId) (filed role : Role) :
    ((pool.file addr connection filed).1.topology.subpool role).cursor =
      (pool.topology.subpool role).cursor := by
  unfold file
  split
  · rfl
  · exact (Topology.cursor_add _ filed addr connection role).trans (Topology.cursor_remove _ addr role)

theorem cursor_evict (pool : Pool) (addr : String) (role : Role) :
    ((pool.evict addr).1.topology.subpool role).cursor = (pool.topology.subpool role).cursor := by
  unfold evict
  split
  · rfl
  · exact Topology.cursor_remove _ addr role

theorem cursor_relocate (pool : Pool) (addr : String) (connection : ConnectionId) (filed role : Role) :
    ((pool.relocate addr connection filed).1.topology.subpool role).cursor =
      (pool.topology.subpool role).cursor := by
  rcases relocate_cases pool addr connection filed with hsame | ⟨-, -, hmoved⟩
  · rw [hsame]
  · rw [hmoved]
    exact (Topology.cursor_add _ filed addr connection role).trans (Topology.cursor_remove _ addr role)

theorem cursor_setAddrs (pool : Pool) (addrs : List String) (role : Role) :
    ((pool.setAddrs addrs).topology.subpool role).cursor = (pool.topology.subpool role).cursor := by
  unfold setAddrs
  split
  · rfl
  · cases role <;> rfl

/-! ### Routing -/

/-- The subpool whose turn it is when a mode is routed. An open pool without members for the mode has none,
and neither has a closed one. -/
def landing? (pool : Pool) (mode : Mode) : Option Role :=
  if pool.isClosed then none else pool.topology.target? mode

theorem SameEntries.landing?_eq {later : Pool} (hsame : pool.SameEntries later) (mode : Mode) :
    later.landing? mode = pool.landing? mode := by
  rw [landing?, landing?, hsame.isClosed_eq, Topology.target?, Topology.target?]
  simp only [hsame.members]

theorem resolve_of_landing (hlanding : pool.landing? mode = some role) :
    (pool.resolve alive mode).1.toOption = ((pool.topology.subpool role).next alive).1 ∧
      (pool.resolve alive mode).2.topology.subpool role = ((pool.topology.subpool role).next alive).2 := by
  unfold landing? at hlanding
  split_ifs at hlanding with hclosed
  simp only [resolve, hclosed, Bool.false_eq_true, if_false, Topology.resolve, Topology.choose_eq, hlanding]
  cases ((pool.topology.subpool role).next alive).1 <;> simp [Except.toOption]

theorem subpool_resolve_of_ne (hlanding : pool.landing? mode ≠ some role) :
    (pool.resolve alive mode).2.topology.subpool role = pool.topology.subpool role := by
  unfold landing? at hlanding
  unfold resolve
  split_ifs with hclosed
  · rfl
  · rw [if_neg hclosed] at hlanding
    simp only [Topology.resolve, Topology.choose_eq]
    cases htarget : pool.topology.target? mode with
    | none => rfl
    | some chosen =>
        have hne : role ≠ chosen := fun hsame => hlanding (by rw [htarget, hsame])
        have hkept := Topology.subpool_setSubpool_of_ne pool.topology
          ((pool.topology.subpool chosen).next alive).2 hne
        dsimp only
        cases ((pool.topology.subpool chosen).next alive).1 <;> exact hkept

end Pool

/-! ### Upkeep -/

namespace World

variable {world : World} {pool : Pool} {job : Job}

theorem pool_perform_discover (hdiscovers : pool.discovers = true) :
    (world.perform pool .discover).2.1 = (pool.resolve world.isConnected .rw).2 := by
  obtain ⟨function, hfunction⟩ := Option.isSome_iff_exists.mp hdiscovers
  unfold perform
  rw [hfunction]
  dsimp only
  split <;> rfl

/-- Only to call the discovery function a request is routed. -/
theorem cursor_perform (hother : job = .discover → pool.discovers = false) (role : Role) :
    ((world.perform pool job).2.1.topology.subpool role).cursor = (pool.topology.subpool role).cursor := by
  cases job with
  | discover =>
      have hnone : pool.options.discoveryFunction = none := by
        simpa [Pool.discovers] using hother rfl
      simp only [perform, hnone]
  | refresh addrs =>
      cases addrs with
      | nil => rfl
      | cons addr rest =>
          simp only [perform]
          split <;> rfl
  | learn connection script =>
      simp only [perform]
      split <;> rfl
  | reconcile fresh gone members =>
      match fresh, gone with
      | addr :: fresh, gone =>
          simp only [perform]
          split <;> rfl
      | [], addr :: gone => exact Pool.cursor_evict pool addr role
      | [], [] => exact Pool.cursor_setAddrs pool members role
  | fail addr purpose =>
      cases purpose with
      | reopen => exact Pool.cursor_evict pool addr role
      | enlist => rfl
  | offer addr connection filed => exact Pool.cursor_file pool addr connection filed role
  | relocate addr connection filed => exact Pool.cursor_relocate pool addr connection filed role
  | _ => rfl

end World

end ReplicaPool
