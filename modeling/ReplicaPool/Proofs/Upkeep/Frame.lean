import ReplicaPool.Proofs.Cluster.Evolution
import ReplicaPool.Proofs.Pool.Sections
import ReplicaPool.World.Upkeep

/-!
# What one job can do

A job touches the world by a dial, a request that reads or a close at most, and the pool by one guarded
section at most. Everything else that holds of a world or a pool holds after the job as well.
-/

namespace ReplicaPool

namespace World

variable {world : World} {pool : Pool} {job : Job} {opened : QueueId → Prop}

theorem answer_eq (world : World) (connection : ConnectionId) (request : Request)
    (script : Script) :
    (world.answer connection request script).1 = world ∨
      (world.answer connection request script).1 = (world.execute connection request).1 := by
  unfold answer
  split
  · exact Or.inl rfl
  · exact Or.inl rfl
  · exact Or.inr rfl

theorem evolves_answer (world : World) (connection : ConnectionId) (request : Request)
    (script : Script) :
    world.cluster.Evolves opened (world.answer connection request script).1.cluster := by
  rcases answer_eq world connection request script with hsame | hexecute
  · rw [hsame]
    exact .refl _
  · rw [hexecute]
    exact Cluster.evolves_execute _ _ _

inductive Touched (world : World) (queue : QueueId) : World → Prop
  | same : Touched world queue world
  | dial (addr : String) : Touched world queue (world.dial addr queue).1
  | execute (connection : ConnectionId) {request : Request} (hreads : request.isWrite = false) :
      Touched world queue (world.execute connection request).1
  | close (connection : ConnectionId) : Touched world queue (world.close connection).1

theorem touched_answer (queue : QueueId) (connection : ConnectionId) {request : Request}
    (hreads : request.isWrite = false) (script : Script) :
    Touched world queue (world.answer connection request script).1 := by
  rcases answer_eq world connection request script with hsame | hexecute
  · rw [hsame]
    exact .same
  · rw [hexecute]
    exact .execute connection hreads

theorem touched_perform (world : World) (pool : Pool) (job : Job) :
    Touched world pool.queue (world.perform pool job).1 := by
  cases job with
  | wait due => exact .same
  | refresh addrs =>
      cases addrs with
      | nil => exact .same
      | cons addr rest =>
          simp only [perform]
          split <;> exact .same
  | discover =>
      simp only [perform]
      split
      · exact .same
      · cases (pool.resolve world.isConnected .rw).1 <;> exact .same
  | learn connection script =>
      simp only [perform]
      split
      · exact .same
      · exact touched_answer _ _ rfl _
  | reconcile fresh gone members =>
      cases fresh with
      | cons addr fresh =>
          simp only [perform]
          split <;> exact .same
      | nil => cases gone <;> exact .same
  | dial addr purpose => exact .same
  | reach addr purpose => exact .dial addr
  | fail addr purpose => cases purpose <;> exact .same
  | probe connection goal => exact .same
  | classify connection goal script => exact touched_answer _ _ rfl _
  | missed connection goal => exact .same
  | offer addr connection role => exact .same
  | relocate addr connection role => exact .same
  | close connection => exact .close connection

theorem Touched.eq_with {later : World} {queue : QueueId} (htouched : Touched world queue later) :
    later = { world with cluster := later.cluster } := by
  cases htouched <;> rfl

theorem Touched.services_eq {later : World} {queue : QueueId}
    (htouched : Touched world queue later) : later.services = world.services := by
  rw [htouched.eq_with]

theorem Touched.evolves {later : World} {queue : QueueId} (htouched : Touched world queue later) :
    world.cluster.Evolves (· = queue) later.cluster := by
  cases htouched with
  | same => exact .refl _
  | dial addr => exact Cluster.evolves_dial _ _ _
  | execute connection hreads => exact Cluster.evolves_execute _ _ _
  | close connection => exact Cluster.evolves_close _ _

theorem Touched.wellFormed {later : World} {queue : QueueId} (htouched : Touched world queue later)
    (hwellFormed : world.cluster.WellFormed) : later.cluster.WellFormed := by
  cases htouched with
  | same => exact hwellFormed
  | dial addr => exact hwellFormed.dial addr queue
  | execute connection hreads => exact hwellFormed.execute connection _
  | close connection => exact hwellFormed.close connection

theorem answer_withServices (world : World) (services : List Service) (connection : ConnectionId)
    (request : Request) (script : Script) :
    ({ world with services } : World).answer connection request script =
      ({ (world.answer connection request script).1 with services },
        (world.answer connection request script).2) := by
  unfold answer
  split <;> rfl

theorem perform_withServices (world : World) (services : List Service) (pool : Pool) (job : Job) :
    ({ world with services } : World).perform pool job =
      ({ (world.perform pool job).1 with services }, (world.perform pool job).2) := by
  cases job with
  | refresh addrs =>
      cases addrs with
      | nil => rfl
      | cons addr rest =>
          simp only [perform]
          split <;> rfl
  | discover =>
      simp only [perform]
      split
      · rfl
      · have halive : ({ world with services } : World).isConnected = world.isConnected := rfl
        rw [halive]
        cases (pool.resolve world.isConnected .rw).1 <;> rfl
  | learn connection script =>
      simp only [perform]
      split
      · rfl
      · rw [answer_withServices]
  | reconcile fresh gone members =>
      cases fresh with
      | nil => cases gone <;> rfl
      | cons addr rest =>
          simp only [perform]
          split <;> rfl
  | fail addr purpose => cases purpose <;> rfl
  | classify connection goal script => simp only [perform, answer_withServices]
  | _ => rfl

/-! ### The pool -/

inductive Sectioned (pool : Pool) : Pool → Prop
  | same : Sectioned pool pool
  | file (addr : String) (connection : ConnectionId) (role : Role) :
      Sectioned pool (pool.file addr connection role).1
  | evict (addr : String) : Sectioned pool (pool.evict addr).1
  | relocate (addr : String) (connection : ConnectionId) (role : Role) :
      Sectioned pool (pool.relocate addr connection role).1
  | setAddrs (addrs : List String) : Sectioned pool (pool.setAddrs addrs)
  | resolve (alive : ConnectionId → Bool) (mode : Mode) :
      Sectioned pool (pool.resolve alive mode).2

theorem sectioned_perform (world : World) (pool : Pool) (job : Job) :
    Sectioned pool (world.perform pool job).2.1 := by
  cases job with
  | wait due => exact .same
  | refresh addrs =>
      cases addrs with
      | nil => exact .same
      | cons addr rest =>
          simp only [perform]
          split <;> exact .same
  | discover =>
      simp only [perform]
      split
      · exact .same
      · have hresolve : Sectioned pool (pool.resolve world.isConnected .rw).2 := .resolve _ _
        rcases hresult : pool.resolve world.isConnected .rw with ⟨picked, moved⟩
        rw [hresult] at hresolve
        cases picked <;> exact hresolve
  | learn connection script =>
      simp only [perform]
      split <;> exact .same
  | reconcile fresh gone members =>
      cases fresh with
      | cons addr fresh =>
          simp only [perform]
          split <;> exact .same
      | nil =>
          cases gone with
          | nil => exact .setAddrs members
          | cons addr gone => exact .evict addr
  | dial addr purpose => exact .same
  | reach addr purpose => exact .same
  | fail addr purpose =>
      cases purpose with
      | reopen => exact .evict addr
      | enlist => exact .same
  | probe connection goal => exact .same
  | classify connection goal script => exact .same
  | missed connection goal => exact .same
  | offer addr connection role => exact .file addr connection role
  | relocate addr connection role => exact .relocate addr connection role
  | close connection => exact .same

theorem Sectioned.eq_with {moved : Pool} (hsectioned : Sectioned pool moved) :
    moved = { pool with topology := moved.topology } := by
  cases hsectioned with
  | same => rfl
  | file addr connection role =>
      unfold Pool.file
      split <;> rfl
  | evict addr =>
      unfold Pool.evict
      split <;> rfl
  | relocate addr connection role =>
      rcases Pool.relocate_cases pool addr connection role with hsame | ⟨-, -, hmoved⟩
      · rw [hsame]
      · rw [hmoved]
  | setAddrs addrs =>
      unfold Pool.setAddrs
      split <;> rfl
  | resolve alive mode => exact (Pool.resolve_snd alive pool mode).1

theorem Sectioned.queue_eq {moved : Pool} (hsectioned : Sectioned pool moved) :
    moved.queue = pool.queue := by
  rw [hsectioned.eq_with]

theorem Sectioned.options_eq {moved : Pool} (hsectioned : Sectioned pool moved) :
    moved.options = pool.options := by
  rw [hsectioned.eq_with]

theorem Sectioned.isClosed_eq {moved : Pool} (hsectioned : Sectioned pool moved) :
    moved.isClosed = pool.isClosed := by
  rw [hsectioned.eq_with]

theorem Sectioned.eq_of_closed {moved : Pool} (hsectioned : Sectioned pool moved)
    (hclosed : pool.isClosed = true) : moved = pool := by
  cases hsectioned with
  | same => rfl
  | file addr connection role => simp [Pool.file, hclosed]
  | evict addr => simp [Pool.evict, hclosed]
  | relocate addr connection role => simp [Pool.relocate, hclosed]
  | setAddrs addrs => simp [Pool.setAddrs, hclosed]
  | resolve alive mode => simp [Pool.resolve, hclosed]

end World

end ReplicaPool
