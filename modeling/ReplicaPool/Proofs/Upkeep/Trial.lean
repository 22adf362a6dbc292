import ReplicaPool.Proofs.Places
import ReplicaPool.Proofs.Upkeep.Completion

/-!
# Trying an address

What an attempt at an address comes to can be told beforehand: `World.verdict` is the role that a
connection is found to have, and `World.trial` the role that a new connection to an address would have.
Neither depends on anything that work on other addresses could change, which is what `World.Extends` says.
-/

namespace ReplicaPool

/-- A world in which everything that was there is as it was; there may be more connections. -/
structure World.Extends (world later : World) : Prop where
  scripts_eq : later.scripts = world.scripts
  nodes_eq : later.cluster.nodes = world.cluster.nodes
  directory_eq : later.cluster.directory = world.cluster.directory
  length_le : world.cluster.connections.length ≤ later.cluster.connections.length
  kept : ∀ {id : ConnectionId}, id < world.cluster.connections.length →
    later.cluster.connections[id]? = world.cluster.connections[id]?

namespace World

variable {world middle later : World} {pool : Pool} {limit : Nat} {addr : String}
  {connection : ConnectionId} {role : Role}

theorem Extends.refl (world : World) : world.Extends world :=
  ⟨rfl, rfl, rfl, Nat.le_refl _, fun _ => rfl⟩

theorem Extends.trans (hearly : world.Extends middle) (hlate : middle.Extends later) :
    world.Extends later where
  scripts_eq := hlate.scripts_eq.trans hearly.scripts_eq
  nodes_eq := hlate.nodes_eq.trans hearly.nodes_eq
  directory_eq := hlate.directory_eq.trans hearly.directory_eq
  length_le := Nat.le_trans hearly.length_le hlate.length_le
  kept := fun hid => (hlate.kept (Nat.lt_of_lt_of_le hid hearly.length_le)).trans (hearly.kept hid)

theorem Extends.link_eq (hextends : world.Extends later)
    (hconnection : connection < world.cluster.connections.length) :
    later.cluster.link connection = world.cluster.link connection := by
  simp only [Cluster.link, hextends.kept hconnection]

theorem Extends.accepts_iff (hextends : world.Extends later) {node : NodeId} {taker : Node} :
    later.cluster.Accepts addr node taker ↔ world.cluster.Accepts addr node taker := by
  constructor <;> rintro ⟨hnodeAt, hnode, hrunning⟩
  · refine ⟨?_, ?_, hrunning⟩
    · rw [← hnodeAt, Cluster.nodeAt?, Cluster.nodeAt?, hextends.directory_eq]
    · rw [← hnode, hextends.nodes_eq]
  · refine ⟨?_, ?_, hrunning⟩
    · rw [← hnodeAt, Cluster.nodeAt?, Cluster.nodeAt?, hextends.directory_eq]
    · rw [← hnode, hextends.nodes_eq]

theorem extends_setNow (world : World) (now : Nat) : world.Extends { world with now } :=
  ⟨rfl, rfl, rfl, Nat.le_refl _, fun _ => rfl⟩

theorem extends_dial (world : World) (addr : String) (queue : QueueId) :
    world.Extends (world.dial addr queue).1 where
  scripts_eq := rfl
  nodes_eq := Cluster.nodes_dial _ _ _
  directory_eq := Cluster.directory_dial _ _ _
  length_le := (Cluster.evolves_dial world.cluster addr queue).length_le
  kept := by
    intro id hid
    simp only [dial]
    by_cases haccepts : ∃ node taker, world.cluster.Accepts addr node taker
    · obtain ⟨node, taker, haccepts⟩ := haccepts
      rw [Cluster.dial_of_accepts haccepts, Cluster.connections_deliver,
        List.getElem?_append_left hid]
    · rw [Cluster.dial_of_refused haccepts]

theorem Extends.close (hextends : world.Extends later)
    (hnew : world.cluster.connections.length ≤ connection) :
    world.Extends (later.close connection).1 where
  scripts_eq := hextends.scripts_eq
  nodes_eq := Cluster.nodes_shift.trans hextends.nodes_eq
  directory_eq := Cluster.directory_shift.trans hextends.directory_eq
  length_le := by
    have hevolves : later.cluster.Evolves (fun _ => False) (later.cluster.close connection) :=
      Cluster.evolves_close _ _
    exact Nat.le_trans hextends.length_le hevolves.length_le
  kept := by
    intro id hid
    have hne : id ≠ connection := Nat.ne_of_lt (Nat.lt_of_lt_of_le hid hnew)
    rw [← hextends.kept hid]
    simp only [World.close, Cluster.close, Cluster.getElem?_connections_shift]
    cases later.cluster.connections[id]? <;> simp [hne]

/-! ### What a connection is found to be -/

def verdict (world : World) (limit : Nat) (present : Connection) : Option Role :=
  let script := world.script present.addr
  if script.infoDelay ≤ limit then
    match script.infoFailure, script.info with
    | some _, _ => none
    | none, some rows => (Role.ofReply rows).toOption
    | none, none =>
        match present.link, world.cluster.nodes[present.node]? with
        | .connected, some node => some (Role.ofReadOnly node.readOnly)
        | _, _ => none
  else none

/-- The role that a new connection to an address would be found to have. -/
def trial (world : World) (limit : Nat) (addr : String) : Option Role :=
  if (world.script addr).dialDelay ≤ limit then
    match world.cluster.nodeAt? addr with
    | none => none
    | some node =>
        match world.cluster.nodes[node]? with
        | none => none
        | some taker =>
            if taker.running then world.verdict limit (Cluster.fresh addr 0 node taker) else none
  else none

theorem Extends.script_eq (hextends : world.Extends later) : later.script addr = world.script addr := by
  simp only [script, hextends.scripts_eq]

theorem Extends.verdict_eq (hextends : world.Extends later) (present : Connection) :
    later.verdict limit present = world.verdict limit present := by
  simp only [verdict, hextends.script_eq, hextends.nodes_eq]

theorem Extends.trial_eq (hextends : world.Extends later) :
    later.trial limit addr = world.trial limit addr := by
  simp only [trial, hextends.script_eq, hextends.nodes_eq, hextends.verdict_eq, Cluster.nodeAt?,
    hextends.directory_eq]

theorem trial_eq_verdict {node : NodeId} {taker : Node} (queue : QueueId)
    (hintime : (world.script addr).dialDelay ≤ limit)
    (haccepts : world.cluster.Accepts addr node taker) :
    world.trial limit addr = world.verdict limit (Cluster.fresh addr queue node taker) := by
  simp only [trial, hintime, if_true, haccepts.nodeAt, haccepts.node, haccepts.running]
  rfl

theorem trial_eq_none (hrefused : ¬∃ node taker, world.cluster.Accepts addr node taker) :
    world.trial limit addr = none := by
  unfold trial
  split
  · split
    · rfl
    · rename_i node hnodeAt
      split
      · rfl
      · rename_i taker hnode
        split
        · rename_i hrunning
          exact absurd ⟨node, taker, hnodeAt, hnode, hrunning⟩ hrefused
        · rfl
  · rfl

theorem handle_introspect (node : Node) (functions : Functions) :
    node.handle functions .introspect = (node, .ok [node.report]) := by
  simp [Node.handle, Request.introspect, Request.isWrite, Node.storeCommand?, Node.answer, Node.call]

theorem execute_introspect {present : Connection}
    (hpresent : world.cluster.connections[connection]? = some present) :
    (world.execute connection .introspect).1 = world ∧
      (Role.ofOutcome (world.execute connection .introspect).2).toOption =
        match present.link, world.cluster.nodes[present.node]? with
        | .connected, some node => some (Role.ofReadOnly node.readOnly)
        | _, _ => none := by
  have hreport : ∀ node : Node, Role.ofReply [node.report] = .ok (Role.ofReadOnly node.readOnly) := by
    intro node
    simp [Role.ofReply, Node.report, Json.field?, List.lookup_cons]
  simp only [execute, Cluster.execute, hpresent]
  cases hlink : present.link with
  | closed => exact ⟨rfl, rfl⟩
  | disconnected => exact ⟨rfl, rfl⟩
  | connected =>
      cases hnode : world.cluster.nodes[present.node]? with
      | none => exact ⟨rfl, rfl⟩
      | some node =>
          have hset := set_eq_of_getElem? hnode
          constructor
          · simp only [handle_introspect, hset]
          · simp only [handle_introspect, Role.ofOutcome, hreport]
            rfl

theorem answer_introspect {present : Connection}
    (hpresent : world.cluster.connections[connection]? = some present)
    (hintime : (world.script present.addr).infoDelay ≤ limit) :
    (world.answer connection .introspect (world.script present.addr)).1 = world ∧
      (Role.ofOutcome (world.answer connection .introspect
        (world.script present.addr)).2).toOption = world.verdict limit present := by
  obtain ⟨hsame, hrole⟩ := execute_introspect hpresent
  simp only [answer, verdict, hintime, if_true]
  cases (world.script present.addr).infoFailure with
  | some failure => exact ⟨rfl, rfl⟩
  | none =>
      cases (world.script present.addr).info with
      | some rows => exact ⟨rfl, rfl⟩
      | none => exact ⟨hsame, hrole⟩

theorem scriptFor_introspect {present : Connection}
    (hpresent : world.cluster.connections[connection]? = some present) :
    world.scriptFor connection .introspect = world.script present.addr := by
  simp [scriptFor, Request.introspect, Request.isIntrospection, Cluster.connectionAddr, hpresent]

/-! ### Faithful addresses -/

/-- An address that behaves as its node does and answers in time. -/
structure Faithful (world : World) (limit : Nat) (addr : String) : Prop where
  dial_le : (world.script addr).dialDelay ≤ limit
  info_le : (world.script addr).infoDelay ≤ limit
  info_eq : (world.script addr).info = none
  infoFailure_eq : (world.script addr).infoFailure = none

theorem faithful_of_unscripted (hscripts : world.scripts = []) : world.Faithful limit addr := by
  have hscript : world.script addr = {} := by simp [script, hscripts]
  constructor <;> rw [hscript]
  · exact Nat.zero_le _
  · exact Nat.zero_le _

theorem Faithful.verdict_connected {present : Connection} {node : Node}
    (hfaithful : world.Faithful limit present.addr) (hlink : present.link = .connected)
    (hnode : world.cluster.nodes[present.node]? = some node) :
    world.verdict limit present = some (Role.ofReadOnly node.readOnly) := by
  simp only [World.verdict, hfaithful.info_le, hfaithful.info_eq, hfaithful.infoFailure_eq, hlink,
    hnode, if_true]

theorem Faithful.verdict_disconnected {present : Connection}
    (hfaithful : world.Faithful limit present.addr) (hlink : present.link = .disconnected) :
    world.verdict limit present = none := by
  simp only [World.verdict, hfaithful.info_le, hfaithful.info_eq, hfaithful.infoFailure_eq, hlink,
    if_true]

theorem Faithful.trial {node : NodeId} {taker : Node} (hfaithful : world.Faithful limit addr)
    (haccepts : world.cluster.Accepts addr node taker) :
    world.trial limit addr =
      if taker.linkUp then some (Role.ofReadOnly taker.readOnly) else none := by
  have hfresh : world.Faithful limit (Cluster.fresh addr 0 node taker).addr := hfaithful
  rw [trial_eq_verdict 0 hfaithful.dial_le haccepts]
  cases hup : taker.linkUp with
  | true => exact hfresh.verdict_connected (by simp [Cluster.fresh, hup]) haccepts.node
  | false => exact hfresh.verdict_disconnected (by simp [Cluster.fresh, hup])

/-! ### Probing -/

theorem conclude_congr (connection : ConnectionId) (goal : Goal)
    {outcome other : Except PoolError Role} (hsame : outcome.toOption = other.toOption) :
    goal.conclude connection outcome = goal.conclude connection other := by
  cases outcome <;> cases other
  · cases goal <;> rfl
  · cases hsame
  · cases hsame
  · cases hsame
    rfl

def found (role? : Option Role) : Except PoolError Role :=
  match role? with
  | some role => .ok role
  | none => .error .closed

theorem toOption_found (role? : Option Role) : (found role?).toOption = role? := by
  cases role? <;> rfl

/-- A probe takes its time and then goes by the verdict. -/
theorem carryOut_probe {present : Connection} (pool : Pool) (goal : Goal) (rest : List Job)
    (hpresent : world.cluster.connections[connection]? = some present) :
    ∃ now, world.carryOut pool (.probe connection goal :: rest) =
      ({ world with now } : World).carryOut pool
        (goal.conclude connection (found (world.verdict pool.options.probeTimeout present)) ++
          rest) := by
  have hclassify : ∀ now, (world.script present.addr).infoDelay ≤ pool.options.probeTimeout →
      ({ world with now } : World).carryOut pool
        (.classify connection goal (world.script present.addr) :: rest) =
      ({ world with now } : World).carryOut pool
        (goal.conclude connection (found (world.verdict pool.options.probeTimeout present)) ++
          rest) := by
    intro now hintime
    have hlater : ({ world with now } : World).cluster.connections[connection]? = some present :=
      hpresent
    obtain ⟨hsame, hrole⟩ := answer_introspect hlater hintime
    rw [carryOut_cons]
    simp only [awaitDue, perform]
    have hscript : ({ world with now } : World).script present.addr = world.script present.addr := rfl
    rw [hscript] at hsame hrole
    have hverdict : ({ world with now } : World).verdict pool.options.probeTimeout present =
        world.verdict pool.options.probeTimeout present := rfl
    rw [hverdict, ← toOption_found (world.verdict _ _)] at hrole
    rw [hsame, conclude_congr connection goal hrole]
  rw [carryOut_cons]
  simp only [awaitDue, perform, beginProbe, scriptFor_introspect hpresent]
  split
  · rename_i hzero
    exact ⟨world.now, hclassify world.now (by rw [hzero]; exact Nat.zero_le _)⟩
  · by_cases hintime : (world.script present.addr).infoDelay ≤ pool.options.probeTimeout
    · refine ⟨max world.now (world.now + (world.script present.addr).infoDelay), ?_⟩
      simp only [waitWithin, hintime, if_true, List.cons_append, List.nil_append]
      rw [carryOut_cons]
      exact hclassify _ hintime
    · have hnone : world.verdict pool.options.probeTimeout present = none := by
        simp only [verdict, hintime, if_false]
      refine ⟨max world.now (world.now + pool.options.probeTimeout), ?_⟩
      simp only [waitWithin, hintime, if_false, List.cons_append, List.nil_append, hnone]
      rw [carryOut_cons]
      simp only [awaitDue, perform, List.nil_append]
      rw [carryOut_cons]
      simp only [awaitDue, perform]
      rw [conclude_congr connection goal (show
        (Except.error (PoolError.classifyTimeout (world.cluster.connectionAddr connection)) :
          Except PoolError Role).toOption = (found none).toOption from rfl)]

/-! ### Dialling -/

theorem carryOut_dial_late (purpose : Purpose)
    (hlate : ¬(world.script addr).dialDelay ≤ pool.options.probeTimeout) :
    ∃ now, world.carryOut pool [.dial addr purpose] =
      ({ world with now } : World).carryOut pool [.fail addr purpose] := by
  have hne : (world.script addr).dialDelay ≠ 0 := fun hzero => hlate (hzero ▸ Nat.zero_le _)
  refine ⟨max world.now (world.now + pool.options.probeTimeout), ?_⟩
  rw [carryOut_cons]
  simp only [awaitDue, perform, beginDial, hne, if_false, waitWithin, hlate, List.append_nil]
  rw [carryOut_cons]
  rfl

theorem carryOut_dial_reach (purpose : Purpose)
    (hintime : (world.script addr).dialDelay ≤ pool.options.probeTimeout) :
    ∃ now, world.carryOut pool [.dial addr purpose] =
      ({ world with now } : World).carryOut pool [.reach addr purpose] := by
  by_cases hzero : (world.script addr).dialDelay = 0
  · refine ⟨world.now, ?_⟩
    rw [carryOut_cons]
    simp only [awaitDue, perform, beginDial, hzero, if_true, List.append_nil]
  · refine ⟨max world.now (world.now + (world.script addr).dialDelay), ?_⟩
    rw [carryOut_cons]
    simp only [awaitDue, perform, beginDial, hzero, if_false, waitWithin, hintime, if_true,
      List.append_nil]
    rw [carryOut_cons]
    rfl

theorem getElem?_connections_dial {node : NodeId} {taker : Node} (queue : QueueId)
    (haccepts : world.cluster.Accepts addr node taker) :
    (world.dial addr queue).1.cluster.connections[world.cluster.connections.length]? =
      some (Cluster.fresh addr queue node taker) := by
  simp only [dial, Cluster.dial_of_accepts haccepts, Cluster.connections_deliver,
    List.getElem?_concat_length]

/-- A node that takes the dial gets a connection, which then goes by the verdict. -/
theorem carryOut_reach {node : NodeId} {taker : Node} (pool : Pool) (purpose : Purpose)
    (haccepts : world.cluster.Accepts addr node taker) :
    ∃ now, world.carryOut pool [.reach addr purpose] =
      ({ (world.dial addr pool.queue).1 with now } : World).carryOut pool
        (Goal.conclude world.cluster.connections.length (.file addr purpose)
          (found (world.verdict pool.options.probeTimeout
            (Cluster.fresh addr pool.queue node taker)))) := by
  have hresult : (world.dial addr pool.queue).2 = .ok world.cluster.connections.length := by
    simp only [dial, Cluster.dial_of_accepts haccepts]
  obtain ⟨now, hprobe⟩ := carryOut_probe pool (.file addr purpose) []
    (getElem?_connections_dial pool.queue haccepts)
  refine ⟨now, ?_⟩
  rw [carryOut_cons]
  simp only [awaitDue, perform, hresult, Job.afterDial, List.append_nil]
  rw [hprobe, (extends_dial world addr pool.queue).verdict_eq, List.append_nil]

theorem carryOut_reach_refused (pool : Pool) (purpose : Purpose)
    (hrefused : ¬∃ node taker, world.cluster.Accepts addr node taker) :
    world.carryOut pool [.reach addr purpose] =
      (world.dial addr pool.queue).1.carryOut pool [.fail addr purpose] := by
  have hresult : (world.dial addr pool.queue).2 = .error (.refused addr) := by
    simp only [dial, Cluster.dial_of_refused hrefused]
  rw [carryOut_cons]
  simp only [awaitDue, perform, hresult, Job.afterDial, List.append_nil]

/-- An attempt that the trial says will succeed offers a new connection. -/
theorem carryOut_dial_of_trial (purpose : Purpose)
    (htrial : world.trial pool.options.probeTimeout addr = some role) :
    ∃ later node taker, world.Extends later ∧ world.cluster.Accepts addr node taker ∧
      later.cluster.connections[world.cluster.connections.length]? =
        some (Cluster.fresh addr pool.queue node taker) ∧
      world.carryOut pool [.dial addr purpose] =
        later.carryOut pool [.offer addr world.cluster.connections.length role] := by
  have hintime : (world.script addr).dialDelay ≤ pool.options.probeTimeout := by
    by_contra hlate
    simp only [trial, hlate, if_false] at htrial
    cases htrial
  by_cases haccepts : ∃ node taker, world.cluster.Accepts addr node taker
  · obtain ⟨node, taker, haccepts⟩ := haccepts
    have hverdict : world.verdict pool.options.probeTimeout
        (Cluster.fresh addr pool.queue node taker) = some role :=
      (trial_eq_verdict pool.queue hintime haccepts).symm.trans htrial
    obtain ⟨started, hreach⟩ := carryOut_dial_reach purpose hintime
    have haccepts' : ({ world with now := started } : World).cluster.Accepts addr node taker :=
      haccepts
    obtain ⟨now, hprobe⟩ := carryOut_reach pool purpose haccepts'
    refine ⟨{ (World.dial { world with now := started } addr pool.queue).1 with now }, node, taker,
      ?_, haccepts, getElem?_connections_dial pool.queue haccepts', ?_⟩
    · exact ((extends_setNow world started).trans (extends_dial _ addr pool.queue)).trans
        (extends_setNow _ now)
    · have hsame : ({ world with now := started } : World).verdict pool.options.probeTimeout
          (Cluster.fresh addr pool.queue node taker) = some role := hverdict
      rw [hreach, hprobe, hsame]
      rfl
  · rw [trial_eq_none haccepts] at htrial
    cases htrial

/-- An attempt that the trial says will not succeed closes what it dialled and fails. -/
theorem carryOut_dial_of_no_trial (purpose : Purpose)
    (htrial : world.trial pool.options.probeTimeout addr = none) :
    ∃ later, world.Extends later ∧
      world.carryOut pool [.dial addr purpose] = later.carryOut pool [.fail addr purpose] := by
  by_cases hintime : (world.script addr).dialDelay ≤ pool.options.probeTimeout
  · obtain ⟨started, hreach⟩ := carryOut_dial_reach purpose hintime
    have hbegun := (extends_setNow world started).trans
      (extends_dial { world with now := started } addr pool.queue)
    by_cases haccepts : ∃ node taker, world.cluster.Accepts addr node taker
    · obtain ⟨node, taker, haccepts⟩ := haccepts
      have hverdict : world.verdict pool.options.probeTimeout
          (Cluster.fresh addr pool.queue node taker) = none :=
        (trial_eq_verdict pool.queue hintime haccepts).symm.trans htrial
      have haccepts' : ({ world with now := started } : World).cluster.Accepts addr node taker :=
        haccepts
      obtain ⟨now, hprobe⟩ := carryOut_reach pool purpose haccepts'
      have hsame : ({ world with now := started } : World).verdict pool.options.probeTimeout
          (Cluster.fresh addr pool.queue node taker) = none := hverdict
      let failed : World := { (World.dial { world with now := started } addr pool.queue).1 with now }
      refine ⟨(failed.close world.cluster.connections.length).1, ?_, ?_⟩
      · exact (hbegun.trans (extends_setNow _ now)).close (Nat.le_refl _)
      · rw [hreach, hprobe, hsame]
        simp only [found, Goal.conclude]
        rw [carryOut_cons]
        rfl
    · have hrefused : ¬∃ node taker,
          ({ world with now := started } : World).cluster.Accepts addr node taker := haccepts
      exact ⟨_, hbegun, by rw [hreach, carryOut_reach_refused pool purpose hrefused]⟩
  · obtain ⟨now, hlate⟩ := carryOut_dial_late purpose hintime
    exact ⟨_, extends_setNow world now, hlate⟩

end World

end ReplicaPool
