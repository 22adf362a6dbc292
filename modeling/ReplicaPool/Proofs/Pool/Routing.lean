import ReplicaPool.Proofs.Pool.Sections
import ReplicaPool.Proofs.RoundRobin.Rotation

/-!
# Where a mode is routed

A mode is routed to the first of its preferred roles whose subpool has members, alive or not, and from
there to one of the live members or nowhere. `Pool.Routes` states this rule without a cursor, and
`Pool.routes_resolve` says that routing follows it.
-/

namespace ReplicaPool

/-- The roles that may answer a mode, the preferred one first. -/
def Mode.preferences : Mode → List Role
  | .rw => [.master]
  | .preferRw => [.master, .replica]
  | .preferRo => [.replica, .master]

/-- The complaint that no role which may answer a mode has members. -/
def Mode.unserved : Mode → PoolError
  | .rw => .noRwInstance
  | .preferRw | .preferRo => .noHealthyInstance

def Topology.target? (topology : Topology) (mode : Mode) : Option Role :=
  mode.preferences.find? fun role => !(topology.subpool role).members.isEmpty

theorem Topology.choose_eq (topology : Topology) (mode : Mode) :
    topology.choose mode =
      match topology.target? mode with
      | some role => .ok role
      | none => .error mode.unserved := by
  cases hrw : topology.rw.members.isEmpty <;> cases hro : topology.ro.members.isEmpty <;>
    cases mode <;>
    simp [choose, target?, Mode.preferences, Mode.unserved, subpool, RoundRobin.isEmpty, hrw, hro]

namespace Pool

variable {pool : Pool} {alive : ConnectionId → Bool} {mode : Mode} {role : Role}
  {connection : ConnectionId} {cause : PoolError}

inductive Routes (alive : ConnectionId → Bool) (pool : Pool) (mode : Mode) :
    Except PoolError ConnectionId → Prop
  | closed (hclosed : pool.isClosed = true) : Routes alive pool mode (.error .closed)
  | unserved (hopen : pool.isClosed = false) (htarget : pool.topology.target? mode = none) :
      Routes alive pool mode (.error mode.unserved)
  | dead {role : Role} (hopen : pool.isClosed = false)
      (htarget : pool.topology.target? mode = some role)
      (hdead : ∀ entry ∈ (pool.topology.subpool role).members, alive entry.2 = false) :
      Routes alive pool mode (.error (.noAliveInstance role))
  | live {role : Role} {entry : String × ConnectionId} (hopen : pool.isClosed = false)
      (htarget : pool.topology.target? mode = some role)
      (hmem : entry ∈ (pool.topology.subpool role).members) (halive : alive entry.2 = true) :
      Routes alive pool mode (.ok entry.2)

/-- The subpool that a mode is routed to has members, and none of them is alive. -/
def IsDown (alive : ConnectionId → Bool) (pool : Pool) (mode : Mode) (role : Role) : Prop :=
  pool.isClosed = false ∧ pool.topology.target? mode = some role ∧
    ∀ entry ∈ (pool.topology.subpool role).members, alive entry.2 = false

def IsRoutable (alive : ConnectionId → Bool) (pool : Pool) (mode : Mode) : Prop :=
  pool.isClosed = false ∧ ∃ role, pool.topology.target? mode = some role ∧
    ∃ entry ∈ (pool.topology.subpool role).members, alive entry.2 = true

theorem routes_resolve (alive : ConnectionId → Bool) (pool : Pool) (mode : Mode) :
    pool.Routes alive mode (pool.resolve alive mode).1 := by
  unfold resolve
  cases hclosed : pool.isClosed with
  | true => exact .closed hclosed
  | false =>
      simp only [Bool.false_eq_true, if_false, Topology.resolve, Topology.choose_eq]
      cases htarget : pool.topology.target? mode with
      | none => exact .unserved hclosed htarget
      | some role =>
          cases hnext : ((pool.topology.subpool role).next alive).1 with
          | none =>
              simp only [hnext]
              exact .dead hclosed htarget (RoundRobin.next_eq_none_iff.mp hnext)
          | some connection =>
              simp only [hnext]
              obtain ⟨entry, hmem, rfl, halive⟩ := RoundRobin.exists_mem_of_next_eq_some hnext
              exact .live hclosed htarget hmem halive

/-! ### When a mode cannot be routed -/

theorem resolve_eq_closed_iff :
    (pool.resolve alive mode).1 = .error .closed ↔ pool.isClosed = true := by
  constructor
  · intro hresolve
    have hroutes := routes_resolve alive pool mode
    rw [hresolve] at hroutes
    generalize hcause : PoolError.closed = cause at hroutes
    cases hroutes with
    | closed hclosed => exact hclosed
    | unserved hopen htarget => cases mode <;> cases hcause
    | dead hopen htarget hdead => cases hcause
  · intro hclosed
    simp [resolve, hclosed]

theorem resolve_of_unserved (hopen : pool.isClosed = false) (htarget : pool.topology.target? mode = none) :
    pool.resolve alive mode = (.error mode.unserved, pool) := by
  rw [resolve, if_neg (Bool.eq_false_iff.mp hopen)]
  simp only [Topology.resolve, Topology.choose_eq, htarget]

theorem resolve_eq_unserved_iff :
    (pool.resolve alive mode).1 = .error mode.unserved ↔
      pool.isClosed = false ∧ pool.topology.target? mode = none := by
  constructor
  · intro hresolve
    have hroutes := routes_resolve alive pool mode
    rw [hresolve] at hroutes
    generalize hcause : mode.unserved = cause at hroutes
    cases hroutes with
    | closed hclosed => cases mode <;> cases hcause
    | unserved hopen htarget => exact ⟨hopen, htarget⟩
    | dead hopen htarget hdead => cases mode <;> cases hcause
  · rintro ⟨hopen, htarget⟩
    rw [resolve_of_unserved hopen htarget]

theorem resolve_eq_noAlive_iff :
    (pool.resolve alive mode).1 = .error (.noAliveInstance role) ↔
      pool.IsDown alive mode role := by
  constructor
  · intro hresolve
    have hroutes := routes_resolve alive pool mode
    rw [hresolve] at hroutes
    generalize hcause : PoolError.noAliveInstance role = cause at hroutes
    cases hroutes with
    | closed hclosed => cases hcause
    | unserved hopen htarget => cases mode <;> cases hcause
    | dead hopen htarget hdead =>
        cases hcause
        exact ⟨hopen, htarget, hdead⟩
  · rintro ⟨hopen, htarget, hdead⟩
    have hnext := RoundRobin.next_eq_none_iff.mpr hdead
    simp only [resolve, hopen, Bool.false_eq_true, if_false, Topology.resolve, Topology.choose_eq,
      htarget, hnext]

theorem exists_resolve_eq_ok_iff :
    (∃ connection, (pool.resolve alive mode).1 = .ok connection) ↔ pool.IsRoutable alive mode := by
  constructor
  · rintro ⟨connection, hresolve⟩
    have hroutes := routes_resolve alive pool mode
    rw [hresolve] at hroutes
    cases hroutes with
    | live hopen htarget hmem halive => exact ⟨hopen, _, htarget, _, hmem, halive⟩
  · rintro ⟨hopen, role, htarget, entry, hmem, halive⟩
    cases hresolve : (pool.resolve alive mode).1 with
    | ok connection => exact ⟨connection, rfl⟩
    | error cause =>
        have hroutes := routes_resolve alive pool mode
        rw [hresolve] at hroutes
        cases hroutes with
        | closed hclosed =>
            rw [hopen] at hclosed
            cases hclosed
        | unserved _ hnone =>
            rw [htarget] at hnone
            cases hnone
        | dead _ htarget' hdead =>
            rw [htarget] at htarget'
            cases htarget'
            rw [hdead entry hmem] at halive
            cases halive

/-- Routing moves a cursor at most. -/
theorem members_resolve (alive : ConnectionId → Bool) (pool : Pool) (mode : Mode) (role : Role) :
    ((pool.resolve alive mode).2.topology.subpool role).members =
      (pool.topology.subpool role).members := by
  rcases (resolve_snd alive pool mode).2 with hsame | hmoved
  · rw [hsame]
  · rw [hmoved]
    exact (Topology.members_resolve alive pool.topology mode role).1

/-- Two pools that differ in their cursors at most. -/
structure SameEntries (pool later : Pool) : Prop where
  rest : later = { pool with topology := later.topology }
  addrs : later.topology.addrs = pool.topology.addrs
  members : ∀ role, (later.topology.subpool role).members = (pool.topology.subpool role).members

theorem SameEntries.refl (pool : Pool) : pool.SameEntries pool :=
  ⟨rfl, rfl, fun _ => rfl⟩

theorem SameEntries.trans {pool middle later : Pool} (hearly : pool.SameEntries middle)
    (hlate : middle.SameEntries later) : pool.SameEntries later where
  rest := by rw [hlate.rest, hearly.rest]
  addrs := hlate.addrs.trans hearly.addrs
  members := fun role => (hlate.members role).trans (hearly.members role)

theorem SameEntries.isClosed_eq {pool later : Pool} (hsame : pool.SameEntries later) :
    later.isClosed = pool.isClosed := by
  rw [hsame.rest]

theorem SameEntries.queue_eq {pool later : Pool} (hsame : pool.SameEntries later) :
    later.queue = pool.queue := by
  rw [hsame.rest]

theorem SameEntries.lookup?_eq {pool later : Pool} (hsame : pool.SameEntries later)
    (hconsistent : pool.topology.Consistent) (hlater : later.topology.Consistent) (addr : String) :
    later.topology.lookup? addr = pool.topology.lookup? addr :=
  hconsistent.lookup?_congr hlater fun role connection => by rw [hsame.members]

theorem sameEntries_resolve (alive : ConnectionId → Bool) (pool : Pool) (mode : Mode) :
    pool.SameEntries (pool.resolve alive mode).2 where
  rest := (resolve_snd alive pool mode).1
  addrs := by
    rcases (resolve_snd alive pool mode).2 with hsame | hmoved
    · rw [hsame]
    · rw [hmoved, Topology.addrs_resolve]
  members := members_resolve alive pool mode

end Pool

end ReplicaPool
