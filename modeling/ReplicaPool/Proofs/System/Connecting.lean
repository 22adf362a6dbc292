import ReplicaPool.Proofs.Pool.Closing
import ReplicaPool.Proofs.Pool.Soundness
import ReplicaPool.Proofs.System.Attempts

/-!
# Building a pool at once

On a cluster whose nodes answer at once, what comes of building a pool is told by the nodes alone. A list
without addresses and a check interval of zero are turned down first. Otherwise every distinct address is
tried once, and what the attempts have brought is filed in the order of the addresses. There is a pool if a
node at one of them runs and has its link up; if there is none, then no connection is left open.
-/

namespace ReplicaPool

def Attempt.entryIn? (role : Role) (attempt : Attempt) : Option (String × ConnectionId) :=
  match attempt.result with
  | .ok (connection, found) => if found = role then some (attempt.addr, connection) else none
  | .error _ => none

def Attempt.isLive (world : World) (attempt : Attempt) : Bool :=
  match attempt.result with
  | .ok (connection, _) => world.isConnected connection
  | .error _ => false

variable {cluster later : Cluster} {queue : QueueId} {addr : String} {addrs : List String}
  {attempt : Attempt} {attempts : List Attempt} {connection : ConnectionId} {role : Role}

/-! ### What attempts have brought -/

/-- At an address with a role, a connection stays open. -/
theorem Cluster.outcomeAt?_of_roleAt? {present : Connection} (hrole : cluster.roleAt? addr = some role)
    (houtcome : cluster.outcomeAt? queue addr = some present) :
    present.addr = addr ∧ present.queue = queue ∧ present.link = .connected := by
  obtain ⟨node, taker, haccepts, hup⟩ := exists_roleAt?_iff.mp ⟨role, hrole⟩
  rw [outcomeAt?_of_accepts haccepts, if_pos hup] at houtcome
  cases houtcome
  exact ⟨rfl, rfl, rfl⟩

/-- At an address without a role, none does. -/
theorem Cluster.link_of_outcomeAt? {present : Connection} (hrole : cluster.roleAt? addr = none)
    (houtcome : cluster.outcomeAt? queue addr = some present) : present.link = .closed := by
  obtain ⟨⟨node, taker⟩, htaker, rfl⟩ := Option.map_eq_some_iff.mp houtcome
  have hdown : ¬taker.linkUp = true := by
    intro hup
    rw [roleAt?_of_accepts (taker?_eq_some_iff.mp htaker), if_pos hup] at hrole
    cases hrole
  exact if_neg hdown

namespace Attempt.Brings

variable (hbrings : attempt.Brings cluster later queue addr)
include hbrings

theorem roleAt? (hresult : attempt.result = .ok (connection, role)) : cluster.roleAt? addr = some role := by
  rw [← hbrings.role_eq, hresult]
  rfl

theorem map_fst_entryIn? (role : Role) :
    (attempt.entryIn? role).map Prod.fst = if cluster.roleAt? addr = some role then some addr else none := by
  rw [← hbrings.role_eq, ← hbrings.addr_eq, entryIn?]
  cases attempt.result with
  | error cause => simp [Except.toOption]
  | ok found =>
      by_cases hrole : found.2 = role <;> simp [hrole, Except.toOption]

theorem isLive_eq {world : World} (hworld : world.cluster = later) :
    attempt.isLive world = (cluster.roleAt? addr).isSome := by
  cases hresult : attempt.result with
  | error cause =>
      rw [← hbrings.role_eq, isLive, hresult]
      rfl
  | ok found =>
      have hrole := hbrings.roleAt? hresult
      obtain ⟨-, present, houtcome, hpresent⟩ := hbrings.made hresult
      obtain ⟨-, -, hlink⟩ := Cluster.outcomeAt?_of_roleAt? hrole houtcome
      rw [hrole, isLive, hresult]
      simp [World.isConnected, hworld, Cluster.isConnected, Cluster.link_eq hpresent, hlink]

end Attempt.Brings

theorem Attempt.entryIn?_eq_some_iff :
    attempt.entryIn? role = some (addr, connection) ↔
      attempt.addr = addr ∧ attempt.result = .ok (connection, role) := by
  unfold entryIn?
  split
  · rename_i filed found hresult
    rw [hresult, Option.ite_none_right_eq_some]
    constructor
    · rintro ⟨rfl, hentry⟩
      cases hentry
      exact ⟨rfl, rfl⟩
    · rintro ⟨rfl, hsame⟩
      cases hsame
      exact ⟨rfl, rfl⟩
  · rename_i cause hresult
    rw [hresult]
    exact iff_of_false nofun nofun

section Attempts

variable (hbrings : List.Forall₂ (Attempt.Brings cluster later queue) addrs attempts)
include hbrings

theorem addrs_of_brings : attempts.map Attempt.addr = addrs := by
  induction hbrings with
  | nil => rfl
  | cons hfirst _ ih => rw [List.map_cons, hfirst.addr_eq, ih]

theorem exists_of_brings (hmem : attempt ∈ attempts) :
    ∃ addr ∈ addrs, attempt.Brings cluster later queue addr := by
  induction hbrings with
  | nil => cases hmem
  | @cons addr first addrs rest hfirst _ ih =>
      rcases List.mem_cons.mp hmem with rfl | hrest
      · exact ⟨addr, List.mem_cons_self, hfirst⟩
      · obtain ⟨other, hother, hattempt⟩ := ih hrest
        exact ⟨other, List.mem_cons_of_mem _ hother, hattempt⟩

/-- The entries of a subpool are those of the addresses with its role, in their order. -/
theorem entries_of_brings (role : Role) : (attempts.filterMap (Attempt.entryIn? role)).map Prod.fst =
    addrs.filter fun addr => cluster.roleAt? addr = some role := by
  induction hbrings with
  | nil => rfl
  | @cons addr attempt addrs attempts hfirst _ ih =>
      have hentry := hfirst.map_fst_entryIn? role
      by_cases hrole : cluster.roleAt? addr = some role
      · rw [if_pos hrole] at hentry
        obtain ⟨entry, hentry, haddr⟩ := Option.map_eq_some_iff.mp hentry
        rw [List.filterMap_cons_some hentry, List.map_cons, haddr, ih,
          List.filter_cons_of_pos (by simpa using hrole)]
      · rw [if_neg hrole, Option.map_eq_none_iff] at hentry
        rw [List.filterMap_cons_none hentry, ih, List.filter_cons_of_neg (by simpa using hrole)]

theorem elapsed_of_brings : (attempts.map Attempt.elapsed).foldl max 0 = 0 := by
  induction hbrings with
  | nil => rfl
  | cons hfirst _ ih => rw [List.map_cons, hfirst.elapsed_eq, List.foldl_cons, Nat.max_self, ih]

theorem any_isLive_of_brings {world : World} (hworld : world.cluster = later) :
    attempts.any (Attempt.isLive world) = addrs.any fun addr => (cluster.roleAt? addr).isSome := by
  induction hbrings with
  | nil => rfl
  | cons hfirst _ ih => rw [List.any_cons, List.any_cons, hfirst.isLive_eq hworld, ih]

end Attempts

/-! ### Filing -/

structure Pool.Files (pool : Pool) (attempts : List Attempt) (filed : Pool) : Prop where
  frame : filed = { pool with topology := filed.topology }
  addrs_eq : filed.topology.addrs = pool.topology.addrs
  members_eq : ∀ role, (filed.topology.subpool role).members =
    (pool.topology.subpool role).members ++ attempts.filterMap (Attempt.entryIn? role)

theorem Pool.files_nil (pool : Pool) : pool.Files [] pool :=
  ⟨rfl, rfl, fun _ => (List.append_nil _).symm⟩

theorem Pool.Files.skip {pool filed : Pool} (hfiles : pool.Files attempts filed) (addr : String)
    (elapsed : Nat) (cause : PoolError) : pool.Files (⟨addr, elapsed, .error cause⟩ :: attempts) filed :=
  ⟨hfiles.frame, hfiles.addrs_eq, hfiles.members_eq⟩

theorem Pool.Files.put {pool filed : Pool} (elapsed : Nat) (hconsistent : pool.topology.Consistent)
    (habsent : pool.topology.lookup? addr = none)
    (hfiles : { pool with topology := pool.topology.put addr connection role : Pool }.Files attempts filed) :
    pool.Files (⟨addr, elapsed, .ok (connection, role)⟩ :: attempts) filed where
  frame := hfiles.frame
  addrs_eq := hfiles.addrs_eq.trans (Topology.addrs_put _ _ _ _)
  members_eq := by
    intro part
    rw [hfiles.members_eq, hconsistent.members_put_of_absent habsent, List.append_assoc]
    by_cases hrole : role = part
    · rw [if_pos hrole.symm, List.filterMap_cons_some (Attempt.entryIn?_eq_some_iff.mpr ⟨rfl, by rw [hrole]⟩)]
      rfl
    · rw [if_neg (Ne.symm hrole), List.filterMap_cons_none (by simp [Attempt.entryIn?, hrole])]
      rfl

namespace World

variable {world : World} {pool : Pool}

theorem fileAttempt_snd (world : World) (pool : Pool) (somebodyAlive : Bool) (attempt : Attempt) :
    (world.fileAttempt (pool, somebodyAlive) attempt).2 = (somebodyAlive || attempt.isLive world) := by
  cases hresult : attempt.result with
  | ok found => simp only [fileAttempt, Attempt.isLive, hresult]
  | error cause => simp only [fileAttempt, Attempt.isLive, hresult, Bool.or_false]

theorem foldl_fileAttempt_snd (world : World) (pool : Pool) (somebodyAlive : Bool)
    (attempts : List Attempt) :
    (attempts.foldl world.fileAttempt (pool, somebodyAlive)).2 =
      (somebodyAlive || attempts.any (Attempt.isLive world)) := by
  induction attempts generalizing pool somebodyAlive with
  | nil => rw [List.foldl_nil, List.any_nil, Bool.or_false]
  | cons attempt rest ih =>
      rw [List.foldl_cons, ← Prod.eta (world.fileAttempt _ attempt), ih, fileAttempt_snd, List.any_cons,
        Bool.or_assoc]

theorem files_foldl (somebodyAlive : Bool) (hconsistent : pool.topology.Consistent)
    (hopen : pool.isClosed = false) (hnodup : (attempts.map Attempt.addr).Nodup)
    (habsent : ∀ attempt ∈ attempts, pool.topology.lookup? attempt.addr = none) :
    pool.Files attempts (attempts.foldl world.fileAttempt (pool, somebodyAlive)).1 := by
  induction attempts generalizing pool somebodyAlive with
  | nil => exact pool.files_nil
  | cons attempt rest ih =>
      obtain ⟨hnew, hrest⟩ := List.nodup_cons.mp hnodup
      have hothers : ∀ other ∈ rest, pool.topology.lookup? other.addr = none :=
        fun other hmem => habsent other (List.mem_cons_of_mem _ hmem)
      obtain ⟨addr, elapsed, result⟩ := attempt
      rw [List.foldl_cons]
      cases result with
      | error cause => exact (ih somebodyAlive hconsistent hopen hrest hothers).skip addr elapsed cause
      | ok found =>
          obtain ⟨connection, role⟩ := found
          have hfiled : world.fileAttempt (pool, somebodyAlive) ⟨addr, elapsed, .ok (connection, role)⟩ =
              ({ pool with topology := pool.topology.put addr connection role },
                somebodyAlive || world.isConnected connection) := by
            simp only [fileAttempt, Pool.file_eq hconsistent, hopen, Bool.false_eq_true, if_false]
          rw [hfiled]
          -- each address is filed once, so it has no entry before
          refine .put elapsed hconsistent (habsent _ List.mem_cons_self)
            (ih _ hconsistent.put hopen hrest fun other hmem => ?_)
          rw [hconsistent.lookup?_put, if_neg, hothers other hmem]
          exact fun hsame => hnew (List.mem_map.mpr ⟨other, hmem, hsame⟩)

/-! ### The pool -/

/-- Every address of a list was dialled once, and of the connections that this has made those to nodes with
their link up are open. -/
structure DialsEach (world : World) (addrs : List String) (later : World) : Prop where
  dialled : ∃ moves, later.cluster = world.cluster.play moves ∧ moves.filterMap Move.dialled? = addrs
  dials_eq : later.cluster.dials = world.cluster.dials + addrs.length
  connections_eq : later.cluster.connections = world.cluster.connections ++
    addrs.filterMap (world.cluster.outcomeAt? world.cluster.queues.length)

structure Founds (world : World) (addrs : List String) (options : PoolOptions) (later : World) (pool : Pool) :
    Prop where
  services_eq : later.services =
    world.services ++ [{ pool := pool, upkeep := startUpkeep world.now pool.options }]
  options_eq : options.validated = .ok pool.options
  isOpen : pool.isClosed = false
  addrs_eq : pool.topology.addrs = addrs
  /-- A subpool has the addresses at which there is a node of its role, in their order. -/
  filed : ∀ role, (pool.topology.subpool role).addrs =
    addrs.filter fun addr => world.cluster.roleAt? addr = some role
  /-- Every member is a new connection to its address, and open. -/
  connected : ∀ {role : Role} {addr : String} {connection : ConnectionId},
    (addr, connection) ∈ (pool.topology.subpool role).members →
      world.cluster.connections.length ≤ connection ∧
        later.cluster.Serves connection addr pool.queue ∧ later.isConnected connection = true

theorem connect_nil (world : World) (options : PoolOptions) :
    world.connect [] options = (world, .error (.config .emptyAddrs)) := rfl

theorem eraseDups_ne_nil (hne : addrs ≠ []) : addrs.eraseDups ≠ [] := by
  cases addrs with
  | nil => exact absurd rfl hne
  | cons addr rest =>
      rw [List.eraseDups_cons]
      exact List.cons_ne_nil _ _

def withQueue (world : World) (addrs : List String) : World :=
  { world with cluster := (world.cluster.addQueue (eventQueueFactor * addrs.length)).2 }

def emptyPool (world : World) (addrs : List String) (options : PoolOptions) : Pool :=
  { topology := { addrs }, options, queue := world.cluster.queues.length }

section Valid

variable {options : PoolOptions} (hne : addrs ≠ [])
include hne

theorem prepare_of_ne_nil (world : World) (options : PoolOptions) : world.prepare addrs options =
    match options.validated with
    | .error cause => .error (.config cause)
    | .ok valid => .ok (world.withQueue addrs.eraseDups, world.emptyPool addrs.eraseDups valid) := by
  have hempty : addrs.eraseDups.isEmpty = false :=
    List.isEmpty_eq_false_iff.mpr (eraseDups_ne_nil hne)
  rw [prepare, distinct_eq_eraseDups]
  simp only [hempty, Bool.false_eq_true, if_false]
  rfl

theorem connect_of_no_interval (world : World) (hinterval : options.checkInterval = 0) :
    world.connect addrs options = (world, .error (.config .wrongCheckTimeout)) := by
  simp only [connect, prepare_of_ne_nil hne, PoolOptions.validated, hinterval, if_true]

variable (hinterval : options.checkInterval ≠ 0) (hprompt : ∀ addr ∈ addrs, world.Faithful 0 addr)
include hinterval hprompt

/-- The attempts are over at once, and the pool is launched if there is a role at one of the addresses. -/
theorem connect_of_valid : ∃ valid tried attempts filed, options.validated = .ok valid ∧
    (world.withQueue addrs.eraseDups).Tried world.cluster.queues.length addrs.eraseDups tried attempts ∧
    (world.emptyPool addrs.eraseDups valid).Files attempts filed ∧
    world.connect addrs options =
      tried.launch filed (addrs.eraseDups.any fun addr => (world.cluster.roleAt? addr).isSome) := by
  obtain ⟨valid, hvalid⟩ : ∃ valid, options.validated = .ok valid := by
    rw [PoolOptions.validated, if_neg hinterval]
    exact ⟨_, rfl⟩
  have hready : ∀ addr ∈ addrs.eraseDups, (world.withQueue addrs.eraseDups).Faithful 0 addr := by
    intro addr hmem
    obtain ⟨hdial, hreport, hrows, hfailure⟩ := hprompt addr (List.mem_eraseDups.mp hmem)
    exact ⟨hdial, hreport, hrows, hfailure⟩
  have htried := tried_attemptAll hready world.cluster.queues.length valid.probeTimeout
  rcases hattempts : (world.withQueue addrs.eraseDups).attemptAll world.cluster.queues.length
    valid.probeTimeout addrs.eraseDups with ⟨tried, attempts⟩
  rw [hattempts] at htried
  have hfiles : (world.emptyPool addrs.eraseDups valid).Files attempts
      (tried.fileAll (world.emptyPool addrs.eraseDups valid) attempts).1 := by
    refine files_foldl false (Topology.consistent_empty _) rfl ?_ fun _ _ => rfl
    rw [addrs_of_brings htried.brings]
    exact distinct_eq_eraseDups addrs ▸ distinct_nodup addrs
  have halive : (tried.fileAll (world.emptyPool addrs.eraseDups valid) attempts).2 =
      addrs.eraseDups.any fun addr => (world.cluster.roleAt? addr).isSome := by
    rw [fileAll, foldl_fileAttempt_snd, Bool.false_or]
    exact any_isLive_of_brings htried.brings rfl
  have hall : (world.withQueue addrs.eraseDups).attemptAll (world.emptyPool addrs.eraseDups valid).queue
      (world.emptyPool addrs.eraseDups valid).options.probeTimeout
      (world.emptyPool addrs.eraseDups valid).topology.addrs = (tried, attempts) := hattempts
  refine ⟨valid, tried, attempts, _, hvalid, htried, hfiles, ?_⟩
  rw [← halive]
  simp only [connect, prepare_of_ne_nil hne, hvalid, hall, elapsed_of_brings htried.brings, await, if_true]

end Valid

theorem connections_of_files {filed : Pool} {options : PoolOptions} (hbrings :
      List.Forall₂ (Attempt.Brings cluster later queue) addrs attempts)
    (hfiles : (world.emptyPool addrs options).Files attempts filed)
    (hnobody : ∀ addr ∈ addrs, cluster.roleAt? addr = none) : filed.topology.connections = [] := by
  have hmembers : ∀ role, (filed.topology.subpool role).members = [] := by
    intro role
    have hentries := entries_of_brings hbrings role
    rw [List.filter_eq_nil_iff.mpr, List.map_eq_nil_iff] at hentries
    · rw [hfiles.members_eq, hentries, List.append_nil]
      cases role <;> rfl
    · intro addr hmem
      rw [hnobody addr hmem]
      simp
  have hmasters : filed.topology.rw.members = [] := hmembers .master
  have hreplicas : filed.topology.ro.members = [] := hmembers .replica
  rw [Topology.connections, hmasters, hreplicas]
  rfl

theorem Tried.dialsEach {tried reached : World}
    (htried : (world.withQueue addrs).Tried world.cluster.queues.length addrs tried attempts)
    (hcluster : reached.cluster = tried.cluster) : world.DialsEach addrs reached := by
  obtain ⟨moves, hplay, hdialled⟩ := htried.dialled
  have hrun : reached.cluster =
      world.cluster.play (.addQueue (eventQueueFactor * addrs.length) :: moves) := by
    rw [hcluster, hplay]
    rfl
  have haddrs : (Move.addQueue (eventQueueFactor * addrs.length) :: moves).filterMap Move.dialled? = addrs :=
    hdialled
  refine ⟨⟨_, hrun, haddrs⟩, ?_, ?_⟩
  · rw [hrun, Cluster.dials_play, haddrs]
  · rw [hcluster, htried.connections_eq]
    rfl

theorem Tried.founds {tried : World} {filed : Pool} {options valid : PoolOptions}
    (htried : (world.withQueue addrs).Tried world.cluster.queues.length addrs tried attempts)
    (hvalid : options.validated = .ok valid) (hfiles : (world.emptyPool addrs valid).Files attempts filed) :
    world.Founds addrs options
      { tried with
        services := tried.services ++ [{ pool := filed, upkeep := startUpkeep tried.now filed.options }] }
      filed where
  services_eq := by
    rw [htried.frame]
    rfl
  options_eq := by
    have hoptions : filed.options = valid := congrArg Pool.options hfiles.frame
    rw [hvalid, hoptions]
  isOpen := congrArg Pool.isClosed hfiles.frame
  addrs_eq := hfiles.addrs_eq
  filed := by
    intro role
    rw [RoundRobin.addrs, hfiles.members_eq, List.map_append, entries_of_brings htried.brings]
    cases role <;> rfl
  connected := by
    intro role addr connection hmem
    have hqueue : filed.queue = world.cluster.queues.length := congrArg Pool.queue hfiles.frame
    have hentry : (addr, connection) ∈ attempts.filterMap (Attempt.entryIn? role) := by
      rw [hfiles.members_eq] at hmem
      cases role <;> exact hmem
    obtain ⟨attempt, hattempt, hentry⟩ := List.mem_filterMap.mp hentry
    obtain ⟨haddr, hresult⟩ := Attempt.entryIn?_eq_some_iff.mp hentry
    obtain ⟨other, -, hbrings⟩ := exists_of_brings htried.brings hattempt
    obtain ⟨hnew, present, houtcome, hpresent⟩ := hbrings.made hresult
    obtain ⟨hother, hreports, hlink⟩ :=
      Cluster.outcomeAt?_of_roleAt? (hbrings.roleAt? hresult) houtcome
    refine ⟨hnew, ⟨present, hpresent, ?_, hreports.trans hqueue.symm⟩, ?_⟩
    · rw [hother, ← hbrings.addr_eq, haddr]
    · simp [isConnected, Cluster.isConnected, Cluster.link_eq hpresent, hlink]

/-- What comes of building a pool on a cluster whose nodes answer at once. -/
structure BuildsExactly (world : World) (addrs : List String) (options : PoolOptions) : Prop where
  no_addrs : addrs = [] → world.connect addrs options = (world, .error (.config .emptyAddrs))
  no_interval : addrs ≠ [] → options.checkInterval = 0 →
    world.connect addrs options = (world, .error (.config .wrongCheckTimeout))
  dials : addrs ≠ [] → options.checkInterval ≠ 0 →
    world.DialsEach addrs.eraseDups (world.connect addrs options).1
  /-- There is a pool if one of the addresses names a node that runs and has its link up. -/
  succeeds : options.checkInterval ≠ 0 →
    (∃ addr ∈ addrs, ∃ node taker, world.cluster.Accepts addr node taker ∧ taker.linkUp = true) →
      ∃ later pool, world.connect addrs options = (later, .ok world.services.length) ∧
        world.Founds addrs.eraseDups options later pool
  /-- If none does, every connection that was made is closed, and no upkeep has started. -/
  fails : addrs ≠ [] → options.checkInterval ≠ 0 →
    (¬∃ addr ∈ addrs, ∃ node taker, world.cluster.Accepts addr node taker ∧ taker.linkUp = true) →
      ∃ later, world.connect addrs options = (later, .error .noConnection) ∧
        later.services = world.services ∧
        ∀ connection, world.cluster.connections.length ≤ connection →
          later.cluster.link connection = .closed

theorem any_roleAt?_iff : (addrs.eraseDups.any fun addr => (cluster.roleAt? addr).isSome) = true ↔
    ∃ addr ∈ addrs, ∃ node taker, cluster.Accepts addr node taker ∧ taker.linkUp = true := by
  simp only [List.any_eq_true, List.mem_eraseDups, Option.isSome_iff_exists, Cluster.exists_roleAt?_iff]

theorem roleAt?_eq_none_of_any (hnobody : (addrs.any fun addr => (cluster.roleAt? addr).isSome) = false) :
    ∀ addr ∈ addrs, cluster.roleAt? addr = none := by
  simpa using hnobody

theorem Tried.link_eq_closed {tried : World} (htried : world.Tried queue addrs tried attempts)
    (hnobody : ∀ addr ∈ addrs, world.cluster.roleAt? addr = none)
    (hnew : world.cluster.connections.length ≤ connection) : tried.cluster.link connection = .closed := by
  cases hpresent : tried.cluster.connections[connection]? with
  | none => rw [Cluster.link, hpresent]
  | some present =>
      rw [Cluster.link_eq hpresent]
      rw [htried.connections_eq, List.getElem?_append_right hnew] at hpresent
      obtain ⟨addr, hmem, houtcome⟩ := List.mem_filterMap.mp (List.mem_of_getElem? hpresent)
      exact Cluster.link_of_outcomeAt? (hnobody addr hmem) houtcome

theorem launch_of_nobody {filed : Pool} (hconnections : filed.topology.connections = []) :
    world.launch filed false = (world, .error .noConnection) := by
  rw [launch, if_neg Bool.false_ne_true, closeConnections_snd, hconnections]
  rfl

/-- For every list of addresses, all options and every cluster: if the addresses answer as their nodes do
and at once, then building a pool comes to what the nodes say. -/
theorem construction_exact (world : World) (addrs : List String) (options : PoolOptions)
    (hprompt : ∀ addr ∈ addrs, world.Faithful 0 addr) : world.BuildsExactly addrs options where
  no_addrs := by
    rintro rfl
    exact connect_nil world options
  no_interval := fun hne hinterval => connect_of_no_interval hne world hinterval
  dials := by
    intro hne hinterval
    obtain ⟨valid, tried, attempts, filed, -, htried, hfiles, hconnect⟩ :=
      connect_of_valid hne hinterval hprompt
    rw [hconnect]
    -- either way the cluster stays as the attempts have left it
    cases hany : addrs.eraseDups.any fun addr => (world.cluster.roleAt? addr).isSome with
    | true => exact htried.dialsEach rfl
    | false =>
        have hnobody := roleAt?_eq_none_of_any hany
        rw [launch_of_nobody (connections_of_files htried.brings hfiles hnobody)]
        exact htried.dialsEach rfl
  succeeds := by
    intro hinterval hreachable
    have hne : addrs ≠ [] := List.ne_nil_of_mem hreachable.choose_spec.1
    obtain ⟨valid, tried, attempts, filed, hvalid, htried, hfiles, hconnect⟩ :=
      connect_of_valid hne hinterval hprompt
    rw [any_roleAt?_iff.mpr hreachable] at hconnect
    have hlength : tried.services.length = world.services.length := by
      rw [htried.frame]
      rfl
    refine ⟨_, filed, ?_, htried.founds hvalid hfiles⟩
    rw [hconnect, launch, if_pos rfl, hlength]
  fails := by
    intro hne hinterval hunreachable
    obtain ⟨valid, tried, attempts, filed, -, htried, hfiles, hconnect⟩ :=
      connect_of_valid hne hinterval hprompt
    have hany := Bool.eq_false_iff.mpr (mt any_roleAt?_iff.mp hunreachable)
    have hnobody := roleAt?_eq_none_of_any hany
    rw [hany, launch_of_nobody (connections_of_files htried.brings hfiles hnobody)] at hconnect
    refine ⟨tried, hconnect, ?_, fun connection hnew => htried.link_eq_closed hnobody hnew⟩
    rw [htried.frame]
    rfl

def mixedWorld : World :=
  { cluster := [.addNode "127.0.0.1:3301" false, .addNode "127.0.0.1:3302" true,
      .addNode "127.0.0.1:3303" false, .stop 2, .addNode "127.0.0.1:3304" false, .setLink 3 false].foldl
        Cluster.change {} }

def mixedAddrs : List String :=
  ["127.0.0.1:3302", "127.0.0.1:3304", "127.0.0.1:3301", "127.0.0.1:3305", "127.0.0.1:3303",
    "127.0.0.1:3302"]

theorem construction_exact_mixed :
    (∃ later present, mixedWorld.connect mixedAddrs {} = (later, .ok 0) ∧ later.services = [present] ∧
      present.pool.topology.addrs = mixedAddrs.take 5 ∧
      present.pool.topology.rw.addrs = ["127.0.0.1:3301"] ∧
      present.pool.topology.ro.addrs = ["127.0.0.1:3302"] ∧ later.cluster.dials = 5) ∧
    ∃ later, mixedWorld.connect ["127.0.0.1:3304"] {} = (later, .error .noConnection) ∧
      later.services = [] ∧ later.cluster.link 0 = .closed ∧ later.cluster.dials = 1 := by
  have hprompt : ∀ addrs : List String, ∀ addr ∈ addrs, mixedWorld.Faithful 0 addr :=
    fun _ _ _ => faithful_of_unscripted rfl
  constructor
  · have hexact := construction_exact mixedWorld mixedAddrs {} (hprompt _)
    obtain ⟨later, pool, hconnect, hfounds⟩ := hexact.succeeds (by decide)
      ⟨"127.0.0.1:3301", by decide, 0, _, ⟨rfl, rfl, rfl⟩, rfl⟩
    have hdials := hexact.dials (by decide) (by decide)
    rw [hconnect] at hdials
    exact ⟨later, _, hconnect, hfounds.services_eq, hfounds.addrs_eq.trans (by decide),
      (hfounds.filed .master).trans (by decide), (hfounds.filed .replica).trans (by decide),
      hdials.dials_eq.trans (by decide)⟩
  · have hexact := construction_exact mixedWorld ["127.0.0.1:3304"] {} (hprompt _)
    have hnobody : mixedWorld.cluster.roleAt? "127.0.0.1:3304" = none := by decide
    obtain ⟨later, hconnect, hservices, hclosed⟩ := hexact.fails (by decide) (by decide) (by
      rintro ⟨addr, hmem, hreachable⟩
      obtain ⟨role, hrole⟩ := Cluster.exists_roleAt?_iff.mpr hreachable
      rw [List.mem_singleton.mp hmem, hnobody] at hrole
      cases hrole)
    have hdials := hexact.dials (by decide) (by decide)
    rw [hconnect] at hdials
    exact ⟨later, hconnect, hservices, hclosed 0 (by decide), hdials.dials_eq.trans (by decide)⟩

end World

end ReplicaPool
