import ReplicaPool.Proofs.Places
import ReplicaPool.World.System

/-!
# What actions come to

An action that finds nothing to act on, or is turned down, leaves a system as it is. `System.Acted` says what
any other one makes of it, so that nothing else has to take `System.act` apart.
-/

namespace ReplicaPool

namespace World

variable {world : World} {service : ServiceId} {present : Service}

theorem services_modifyService (hpresent : world.services[service]? = some present)
    (change : Service → Service) :
    (world.modifyService service change).services = world.services.set service (change present) :=
  modify_eq_set hpresent change

theorem getElem?_modifyService (hpresent : world.services[service]? = some present)
    (change : Service → Service) :
    (world.modifyService service change).services[service]? = some (change present) := by
  rw [services_modifyService hpresent, List.getElem?_set_self (List.getElem?_eq_some_iff.mp hpresent).1]

theorem setPool_self (hpresent : world.services[service]? = some present) :
    world.setPool service present.pool = world := by
  have hsame : world.services.modify service (fun before => { before with pool := present.pool }) =
      world.services := by
    rw [modify_eq_set hpresent, set_eq_of_getElem? hpresent]
  simp only [setPool, modifyService, hsame]

theorem disown_of_missing (hmissing : world.services[service]? = none) :
    world.disown service = world := by
  have hsame : world.services.modify service (fun before => { before with owned := false }) =
      world.services :=
    List.modify_eq_self (List.getElem?_eq_none_iff.mp hmissing)
  simp only [disown, modifyService, hsame, reap, hmissing]

end World

namespace System

variable {system : System} {service : ServiceId} {present : Service}

inductive Acted (system : System) : Action → System → Prop
  | nothing {action : Action}
      (hwaiting : ∀ service, action = .upkeep service → system.world.stepUpkeep service = none)
      (hmissing : ∀ call place, action = .advance call place → system.calls[call]? = none) :
      Acted system action system
  | change (change : ClusterChange) : Acted system (.change change)
      { system with world.cluster := system.world.cluster.change change }
  | script (addr : String) (script : Script) : Acted system (.script addr script)
      { system with world.scripts := (addr, script) :: system.world.scripts }
  | elapse (duration : Nat) : Acted system (.elapse duration)
      { system with world.now := system.world.now + duration }
  | upkeep {service : ServiceId} {later : World}
      (hstep : system.world.stepUpkeep service = some later) :
      Acted system (.upkeep service) { system with world := later }
  | resolve {service : ServiceId} {present : Service}
      (hpresent : system.world.services[service]? = some present) (mode : Mode) :
      Acted system (.resolve service mode)
        { system with
          world := system.world.setPool service
            (present.pool.resolve system.world.isConnected mode).2 }
  | execute (connection : ConnectionId) (request : Request) :
      Acted system (.execute connection request)
        { system with world := (system.world.execute connection request).1 }
  | disown {service : ServiceId} {present : Service}
      (hpresent : system.world.services[service]? = some present) :
      Acted system (.disown service) { system with world := system.world.disown service }
  | prepare {addrs : List String} {options : PoolOptions} {world : World} {pool : Pool}
      (hprepare : system.world.prepare addrs options = .ok (world, pool)) :
      Acted system (.prepare addrs options)
        ⟨world, system.calls ++ [.reach pool (pool.topology.addrs.map .waiting)]⟩
  | refuse {service : ServiceId} {present : Service}
      (hpresent : system.world.services[service]? = some present)
      (hclosed : present.pool.isClosed = true) :
      Acted system (.shut service) { system with calls := system.calls ++ [.closed service []] }
  | shut {service : ServiceId} {present : Service}
      (hpresent : system.world.services[service]? = some present)
      (hopen : present.pool.isClosed = false) :
      Acted system (.shut service)
        ⟨system.world.setPool service { present.pool with isClosed := true },
          system.calls ++ [.close service present.pool.topology.connections []]⟩
  | advance {call : Nat} {present : Call} (hcall : system.calls[call]? = some present)
      (place : Nat) :
      Acted system (.advance call place)
        ⟨(present.advance system.world place).1,
          system.calls.set call (present.advance system.world place).2⟩

theorem act_shut_of_closed (hpresent : system.world.services[service]? = some present)
    (hclosed : present.pool.isClosed = true) :
    system.act (.shut service) = { system with calls := system.calls ++ [.closed service []] } := by
  simp only [act, hpresent, World.shutPool, Pool.shut, hclosed, if_true,
    World.setPool_self hpresent, Bool.false_eq_true, if_false]

theorem act_shut_of_open (hpresent : system.world.services[service]? = some present)
    (hopen : present.pool.isClosed = false) :
    system.act (.shut service) =
      ⟨system.world.setPool service { present.pool with isClosed := true },
        system.calls ++ [.close service present.pool.topology.connections []]⟩ := by
  simp only [act, hpresent, World.shutPool, Pool.shut, hopen, Bool.false_eq_true, if_false, if_true]

theorem acted_act (system : System) (action : Action) :
    system.Acted action (system.act action) := by
  cases action with
  | change change => exact .change change
  | script addr script => exact .script addr script
  | elapse duration => exact .elapse duration
  | execute connection request => exact .execute connection request
  | upkeep service =>
      cases hstep : system.world.stepUpkeep service with
      | none =>
          simp only [act, hstep, Option.getD_none]
          refine .nothing ?_ (by simp)
          rintro _ ⟨⟩
          exact hstep
      | some later =>
          simp only [act, hstep, Option.getD_some]
          exact .upkeep hstep
  | resolve service mode =>
      cases hpresent : system.world.services[service]? with
      | none =>
          simp only [act, World.resolve, hpresent]
          exact .nothing (by simp) (by simp)
      | some present =>
          simp only [act, World.resolve, hpresent]
          exact .resolve hpresent mode
  | disown service =>
      cases hpresent : system.world.services[service]? with
      | none =>
          simp only [act, World.disown_of_missing hpresent]
          exact .nothing (by simp) (by simp)
      | some present => exact .disown hpresent
  | prepare addrs options =>
      cases hprepare : system.world.prepare addrs options with
      | error cause =>
          simp only [act, hprepare]
          exact .nothing (by simp) (by simp)
      | ok prepared =>
          simp only [act, hprepare]
          exact .prepare hprepare
  | shut service =>
      cases hpresent : system.world.services[service]? with
      | none =>
          simp only [act, hpresent]
          exact .nothing (by simp) (by simp)
      | some present =>
          cases hclosed : present.pool.isClosed with
          | true =>
              rw [act_shut_of_closed hpresent hclosed]
              exact .refuse hpresent hclosed
          | false =>
              rw [act_shut_of_open hpresent hclosed]
              exact .shut hpresent hclosed
  | advance call place =>
      cases hcall : system.calls[call]? with
      | none =>
          simp only [act, hcall]
          refine .nothing (by simp) ?_
          rintro _ _ ⟨⟩
          exact hcall
      | some present =>
          simp only [act, hcall]
          exact .advance hcall place

end System

end ReplicaPool
