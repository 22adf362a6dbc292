import ReplicaPool.Proofs.Config.Addresses
import ReplicaPool.Proofs.Config.RoundTrip
import ReplicaPool.Proofs.System.Connecting
import ReplicaPool.Proofs.System.Holding

/-!
# Upkeep starts if its first deadlines exist

Upkeep computes the first refresh and the first discovery when it starts, and an instant is a signed 64-bit
number of seconds. With both deadlines the upkeep of a pool goes on as long as the pool is open and has an
owner. Without one of them it never does anything: the pool keeps the entries it started with. The options
of a configuration that was loaded are accepted as they are, and only their discovery interval can be too
long.
-/

namespace ReplicaPool

variable {now : Nat} {options : PoolOptions} {pool : Pool}

/-- The first deadlines of upkeep that starts now are instants. -/
structure PoolOptions.Schedulable (now : Nat) (options : PoolOptions) : Prop where
  refresh : World.clockStart + (now + options.checkInterval) < World.instantLimit
  discovery : World.clockStart + (now + options.discoveryInterval) < World.instantLimit

theorem World.startUpkeep_running_iff :
    (World.startUpkeep now options).running = true ↔ options.Schedulable now := by
  rw [startUpkeep, Bool.and_eq_true, decide_eq_true_iff, decide_eq_true_iff]
  exact ⟨fun ⟨hrefresh, hdiscovery⟩ => ⟨hrefresh, hdiscovery⟩,
    fun ⟨hrefresh, hdiscovery⟩ => ⟨hrefresh, hdiscovery⟩⟩

/-! ### Upkeep goes on -/

def Service.IsMaintained (present : Service) : Prop :=
  present.pool.isClosed = false → present.owned = true → present.upkeep.running = true

variable {world later : World} {service : ServiceId} {present : Service}

theorem UpkeepStep.exists_maintained (hpresent : world.services[service]? = some present)
    (hrunning : present.upkeep.running = true) (hstep : UpkeepStep world service present later) :
    ∃ next, later.services[service]? = some next ∧ next.IsMaintained := by
  cases hstep with
  | @work job rest hagenda hdue =>
      have hservices := hpresent
      rw [← (World.touched_perform world present.pool job).services_eq] at hservices
      exact ⟨_, World.getElem?_modifyService hservices _, fun _ _ => hrunning⟩
  | finish hagenda hover =>
      have hlt := (List.getElem?_eq_some_iff.mp hpresent).1
      refine ⟨_, by rw [(World.endUpkeep_spec hpresent).1, List.getElem?_set_self hlt], ?_⟩
      intro hopen howned
      rcases hover with hclosed | hdisowned
      · rw [hopen] at hclosed
        cases hclosed
      · rw [howned] at hdisowned
        cases hdisowned
  | hear hagenda hopen htake => exact ⟨_, World.getElem?_modifyService hpresent _, fun _ _ => hrunning⟩
  | discover hagenda hopen => exact ⟨_, World.getElem?_modifyService hpresent _, fun _ _ => hrunning⟩
  | refresh hagenda hopen => exact ⟨_, World.getElem?_modifyService hpresent _, fun _ _ => hrunning⟩

namespace System

variable {system : System}

theorem maintained_act (hpresent : system.world.services[service]? = some present)
    (hmaintained : present.IsMaintained) (action : Action) :
    ∃ next, (system.act action).world.services[service]? = some next ∧ next.IsMaintained := by
  by_cases hupkeep : action = .upkeep service
  · subst hupkeep
    cases hstep : system.world.stepUpkeep service with
    | none =>
        simp only [System.act, hstep, Option.getD_none]
        exact ⟨present, hpresent, hmaintained⟩
    | some later =>
        obtain ⟨same, hsame, hkind⟩ := World.stepUpkeep_some hstep
        simp only [System.act, hstep, Option.getD_some]
        exact hkind.exists_maintained hsame (World.running_of_stepUpkeep hstep hsame)
  · obtain ⟨next, hnext, ⟨rfl, -⟩ | hstepped⟩ := stepped_act hpresent action
    · exact ⟨next, hnext, hmaintained⟩
    · refine ⟨next, hnext, ?_⟩
      cases hstepped with
      | route mode =>
          have hsame := Pool.sameEntries_resolve system.world.isConnected present.pool mode
          exact fun hopen howned => hmaintained (hsame.isClosed_eq ▸ hopen) howned
      | disown => exact fun _ howned => by cases howned
      | shut hopen => exact fun hclosed => by cases hclosed
      | work hagenda hdue hrunning => exact absurd rfl hupkeep
      | turn hagenda htakesUp => exact absurd rfl hupkeep

theorem maintained_run (hpresent : system.world.services[service]? = some present)
    (hmaintained : present.IsMaintained) (actions : List Action) :
    ∃ last, (system.run actions).world.services[service]? = some last ∧ last.IsMaintained := by
  induction actions generalizing system present with
  | nil => exact ⟨present, hpresent, hmaintained⟩
  | cons action rest ih =>
      obtain ⟨next, hnext, hlater⟩ := maintained_act hpresent hmaintained action
      exact ih hnext hlater

/-- A pool whose upkeep has ended keeps its entries. -/
theorem ended_run (hpresent : system.world.services[service]? = some present)
    (hended : present.upkeep.running = false) (actions : List Action) :
    ∃ last, (system.run actions).world.services[service]? = some last ∧ last.upkeep.running = false ∧
      Pool.SameEntries { present.pool with isClosed := last.pool.isClosed } last.pool := by
  induction actions generalizing system present with
  | nil => exact ⟨present, hpresent, hended, .refl _⟩
  | cons action rest ih =>
      obtain ⟨next, hnext, hstays, -, hfirst⟩ := exists_ended_act hpresent hended action
      obtain ⟨last, hlast, hrunning, hrest⟩ := ih hnext hstays
      refine ⟨last, hlast, hrunning, ?_, hrest.addrs.trans hfirst.addrs,
        fun role => (hrest.members role).trans (hfirst.members role)⟩
      rw [hrest.rest, hfirst.rest]

/-- Upkeep of a pool starts now: it runs if and only if its first deadlines exist, and then as long as the
pool is open and has an owner. -/
structure StartsUpkeep (system : System) (service : ServiceId) (pool : Pool) : Prop where
  launched : ∃ upkeep, system.world.services[service]? = some { pool, upkeep } ∧
    upkeep.refreshDue = system.world.now + pool.options.checkInterval ∧
    upkeep.discoveryDue = system.world.now + pool.options.discoveryInterval ∧
    (upkeep.running = true ↔ pool.options.Schedulable system.world.now)
  goesOn : pool.options.Schedulable system.world.now → ∀ actions, ∃ present,
    (system.run actions).world.services[service]? = some present ∧ present.IsMaintained
  /-- Otherwise it does nothing at any time, and the entries of the pool stay what they are. -/
  neverRuns : ¬pool.options.Schedulable system.world.now → ∀ actions,
    (system.run actions).world.stepUpkeep service = none ∧ ∃ present,
      (system.run actions).world.services[service]? = some present ∧
      Pool.SameEntries { pool with isClosed := present.pool.isClosed } present.pool

theorem startsUpkeep (hpresent : system.world.services[service]? =
    some { pool, upkeep := World.startUpkeep system.world.now pool.options }) :
    system.StartsUpkeep service pool where
  launched := ⟨_, hpresent, rfl, rfl, World.startUpkeep_running_iff⟩
  goesOn := fun hschedulable actions =>
    maintained_run hpresent (fun _ _ => World.startUpkeep_running_iff.mpr hschedulable) actions
  neverRuns := fun hlate actions => by
    have hended : (World.startUpkeep system.world.now pool.options).running = false := by
      rw [← Bool.not_eq_true, World.startUpkeep_running_iff]
      exact hlate
    obtain ⟨present, hlater, hrunning, hsame⟩ := ended_run hpresent hended actions
    exact ⟨stepUpkeep_of_ended hlater hrunning, present, hlater, hsame⟩

theorem startsUpkeep_advance {place step : Nat}
    (hcall : system.calls[place]? = some (.fill pool true [])) :
    (system.act (.advance place step)).StartsUpkeep system.world.services.length pool := by
  apply startsUpkeep
  simp [System.act, hcall, Call.advance, World.launch]

end System

namespace World

theorem options_foldl_fileAttempt (world : World) (attempts : List Attempt) (pool : Pool)
    (somebodyAlive : Bool) :
    (attempts.foldl world.fileAttempt (pool, somebodyAlive)).1.options = pool.options := by
  induction attempts generalizing pool somebodyAlive with
  | nil => rfl
  | cons attempt rest ih =>
      rw [List.foldl_cons, ← Prod.eta (world.fileAttempt _ attempt), ih]
      unfold fileAttempt
      split
      · exact (Sectioned.file _ _ _).options_eq
      · rfl

theorem validated_of_prepare {addrs : List String}
    (hprepare : world.prepare addrs options = .ok (later, pool)) : options.validated = .ok pool.options := by
  unfold prepare at hprepare
  dsimp only at hprepare
  split at hprepare
  · cases hprepare
  · split at hprepare
    · cases hprepare
    · rename_i hvalid
      cases hprepare
      exact hvalid

/-- A call that builds a pool in one go launches it with the options it has accepted. -/
theorem startsUpkeep_connect {addrs : List String}
    (hconnect : world.connect addrs options = (later, .ok service)) :
    ∃ pool, options.validated = .ok pool.options ∧
      ∀ calls, (System.mk later calls).StartsUpkeep service pool := by
  unfold connect at hconnect
  split at hconnect
  · cases hconnect
  · rename_i begun begunPool hprepare
    dsimp only [fileAll] at hconnect
    unfold launch at hconnect
    split at hconnect
    · cases hconnect
      refine ⟨_, ?_, fun calls => System.startsUpkeep List.getElem?_concat_length⟩
      rw [options_foldl_fileAttempt]
      exact validated_of_prepare hprepare
    · cases hconnect

end World

namespace Config

variable {config : Config}

/-- A valid configuration stands for options that are accepted as they are. -/
theorem validated_toOptions (hvalid : config.validate = .ok ()) :
    config.pool.toOptions.validated = .ok config.pool.toOptions := by
  obtain ⟨-, -, hothers⟩ := validate_eq_ok_iff.mp hvalid
  have hdiscovery : PoolOptions.orDefault config.pool.toOptions.discoveryInterval 60000 =
      config.pool.toOptions.discoveryInterval := by
    rw [PoolConfig.toOptions]
    unfold PoolOptions.orDefault
    split_ifs <;> rfl
  have hprobe : PoolOptions.orDefault config.pool.toOptions.probeTimeout 5000 =
      config.pool.toOptions.probeTimeout := if_neg hothers.probeTimeout
  have hfunction : (config.pool.toOptions.discoveryFunction.filter fun name => !name.isEmpty) =
      config.pool.toOptions.discoveryFunction := by
    have hblank := hothers.discoveryFunction
    rw [PoolConfig.toOptions]
    dsimp only
    cases hname : config.pool.discoveryFunction with
    | none => rfl
    | some name =>
        have hempty : name.isEmpty = false := by
          rw [Bool.eq_false_iff]
          intro hempty
          have hnamed := hblank name hname
          rw [String.isEmpty_iff.mp hempty] at hnamed
          cases hnamed
        simp [hempty]
  have hcheck : config.pool.toOptions.checkInterval ≠ 0 := hothers.checkInterval
  rw [PoolOptions.validated, if_neg hcheck, hdiscovery, hprobe, hfunction]

/-- Of a configuration that was loaded only the discovery interval can be too long, as long as the clock has
room for any number of milliseconds that a document can hold. -/
theorem schedulable_iff_of_load {content : Content} (hload : load content = .ok config)
    (hroom : World.clockStart + (now + greatestNumber) < World.instantLimit) :
    config.pool.toOptions.Schedulable now ↔
      World.clockStart + (now + config.pool.toOptions.discoveryInterval) < World.instantLimit := by
  have hcheck : config.pool.toOptions.checkInterval ≤ greatestNumber :=
    (valid_of_load hload).2 _ List.mem_cons_self
  constructor
  · exact PoolOptions.Schedulable.discovery
  · intro hdiscovery
    refine ⟨Nat.lt_of_le_of_lt ?_ hroom, hdiscovery⟩
    exact Nat.add_le_add_left (Nat.add_le_add_left hcheck now) _

end Config

namespace System

/-- Whoever launches a pool in a system, piece by piece or at one go, starts its upkeep, which runs if and
only if its first deadlines exist. Options that were loaded are accepted as they are, and their first refresh
exists. -/
theorem upkeep_starts (system : System) :
    (∀ {place : Nat} {pool : Pool}, system.calls[place]? = some (.fill pool true []) → ∀ step,
      (system.act (.advance place step)).StartsUpkeep system.world.services.length pool) ∧
    (∀ {addrs : List String} {options : PoolOptions} {later : World} {service : ServiceId},
      system.world.connect addrs options = (later, .ok service) →
        ∃ pool, options.validated = .ok pool.options ∧
          (System.mk later system.calls).StartsUpkeep service pool) ∧
    ∀ {content : Config.Content} {config : Config}, Config.load content = .ok config →
      config.pool.toOptions.validated = .ok config.pool.toOptions ∧
      (World.clockStart + (system.world.now + Config.greatestNumber) < World.instantLimit →
        (config.pool.toOptions.Schedulable system.world.now ↔
          World.clockStart + (system.world.now + config.pool.toOptions.discoveryInterval) <
            World.instantLimit)) := by
  refine ⟨fun hcall _ => startsUpkeep_advance hcall, fun hconnect => ?_, fun hload => ?_⟩
  · obtain ⟨pool, hvalid, hstarts⟩ := World.startsUpkeep_connect hconnect
    exact ⟨pool, hvalid, hstarts system.calls⟩
  · exact ⟨Config.validated_toOptions (Config.valid_of_load hload).1, Config.schedulable_iff_of_load hload⟩

/-- A configuration with the longest discovery interval that a document can hold. -/
def lateConfig : Config :=
  { pool := { discoveryIntervalSec := Config.greatestNumber } }

def lateContent : Config.Content :=
  .bytes (String.join lateConfig.lines).toUTF8

theorem load_lateContent : Config.load lateContent = .ok lateConfig := by
  have hvalid : lateConfig.validate = .ok () := by decide +kernel
  have hrange : ∀ number ∈ lateConfig.numbers, number ≤ Config.greatestNumber := by decide +kernel
  exact Config.load_lines hvalid hrange

def soloWorld : World :=
  { cluster := ({} : Cluster).change (.addNode "127.0.0.1:3301" false) }

theorem connect_soloWorld {options : PoolOptions}
    (hbuilt : (soloWorld.connect ["127.0.0.1:3301"] options).2.toOption = some 0) :
    soloWorld.connect ["127.0.0.1:3301"] options =
      ((soloWorld.connect ["127.0.0.1:3301"] options).1, .ok 0) := by
  rw [Prod.ext_iff]
  refine ⟨rfl, ?_⟩
  cases houtcome : (soloWorld.connect ["127.0.0.1:3301"] options).2 with
  | error cause =>
      rw [houtcome] at hbuilt
      cases hbuilt
  | ok service =>
      rw [houtcome] at hbuilt
      cases hbuilt
      rfl

def launches? : Call → Option Pool
  | .fill pool true [] => some pool
  | _ => none

theorem eq_fill_of_launches? {call : Call} (hlaunches : launches? call = some pool) :
    call = .fill pool true [] := by
  unfold launches? at hlaunches
  split at hlaunches
  · rw [Option.some.inj hlaunches]
  · cases hlaunches

theorem upkeep_starts_solo :
    (∃ pool, pool.options = {} ∧ (run {} soloRun).StartsUpkeep 0 pool) ∧
    (∃ later pool, soloWorld.connect ["127.0.0.1:3301"] {} = (later, .ok 0) ∧
      pool.options.Schedulable later.now ∧ (System.mk later []).StartsUpkeep 0 pool) ∧
    lateConfig.pool.toOptions.validated = .ok lateConfig.pool.toOptions := by
  refine ⟨?_, ?_, ((upkeep_starts {}).2.2 load_lateContent).1⟩
  · let early : System := run {} (soloRun.take 6)
    have hready : (early.calls[0]?.bind launches?).map Pool.options = some {} := by decide +kernel
    obtain ⟨pool, hlaunches, hoptions⟩ := Option.map_eq_some_iff.mp hready
    obtain ⟨call, hcall, hlaunches⟩ := Option.bind_eq_some_iff.mp hlaunches
    rw [eq_fill_of_launches? hlaunches] at hcall
    exact ⟨pool, hoptions, (upkeep_starts early).1 hcall 0⟩
  · have hbuilt : (soloWorld.connect ["127.0.0.1:3301"] {}).2.toOption = some 0 := by decide +kernel
    have hconnect := connect_soloWorld hbuilt
    obtain ⟨pool, hvalid, hstarts⟩ := (upkeep_starts ⟨soloWorld, []⟩).2.1 hconnect
    have hnow : (soloWorld.connect ["127.0.0.1:3301"] {}).1.now = 0 := by decide +kernel
    refine ⟨_, pool, hconnect, ?_, hstarts⟩
    rw [hnow, ← Except.ok.inj hvalid]
    exact ⟨by decide +kernel, by decide +kernel⟩

/-- The longest discovery interval is accepted, but upkeep with it never starts. -/
theorem upkeep_never_starts :
    ¬∀ {content : Config.Content} {config : Config} {world later : World} {service : ServiceId},
      Config.load content = .ok config →
        world.connect config.pool.addrs config.pool.toOptions = (later, .ok service) →
          config.pool.toOptions.Schedulable later.now := by
  intro hclaim
  have hbuilt : (soloWorld.connect lateConfig.pool.addrs lateConfig.pool.toOptions).2.toOption = some 0 := by
    decide +kernel
  have hlate : World.instantLimit ≤ World.clockStart + lateConfig.pool.toOptions.discoveryInterval := by
    decide +kernel
  have hdiscovery := (hclaim load_lateContent (connect_soloWorld hbuilt)).discovery
  omega

end System

end ReplicaPool
