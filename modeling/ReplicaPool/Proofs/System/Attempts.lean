import ReplicaPool.Proofs.Cluster.Moves
import ReplicaPool.Proofs.Upkeep.Trial
import ReplicaPool.World.Connect

/-!
# Attempts

A pool that is built tries each of its addresses once. `World.Tried` says what the attempts at some
addresses come to if their answers are those of the nodes and take no time: one dial for each address, one
connection to each node that runs, and of these the ones whose link is up stay open, under the roles of their
nodes. The attempts at two lists of addresses are the attempts at the whole, so this is shown for one address
and follows for all.
-/

namespace ReplicaPool

def Move.dialled? : Move → Option String
  | .dial addr _ => some addr
  | _ => none

namespace Cluster

variable {cluster later : Cluster} {queue : QueueId} {addr : String} {node : NodeId} {taker : Node}

/-! ### Dials of a run -/

@[simp]
theorem dials_deliver (cluster : Cluster) (reports : List (QueueId × Event)) :
    (cluster.deliver reports).dials = cluster.dials := by
  rw [deliver_eq]

@[simp]
theorem dials_shift (cluster : Cluster) (concerns : ConnectionId → Connection → Bool)
    (change : Link → Link × List EventKind) : (cluster.shift concerns change).dials = cluster.dials := by
  simp [shift]

@[simp]
theorem dials_execute (cluster : Cluster) (id : ConnectionId) (request : Request) :
    (cluster.execute id request).1.dials = cluster.dials := by
  unfold execute
  split
  · rfl
  · split
    · rfl
    · rfl
    · split <;> rfl

@[simp]
theorem dials_dial (cluster : Cluster) (addr : String) (queue : QueueId) :
    (cluster.dial addr queue).1.dials = cluster.dials + 1 := by
  by_cases haccepts : ∃ node taker, cluster.Accepts addr node taker
  · obtain ⟨node, taker, haccepts⟩ := haccepts
    rw [dial_of_accepts haccepts, dials_deliver]
  · rw [dial_of_refused haccepts]

theorem dials_move (cluster : Cluster) (move : Move) :
    (cluster.move move).dials = cluster.dials + move.dialled?.toList.length := by
  cases move with
  | change change =>
      cases change with
      | stop node => exact dials_shift _ _ _
      | setLink node up => exact dials_shift _ _ _
      | _ => rfl
  | dial addr queue => exact dials_dial _ _ _
  | execute connection request => exact dials_execute _ _ _
  | close connection => exact dials_shift _ _ _
  | _ => rfl

/-- A cluster counts the dials of its run. -/
theorem dials_play (cluster : Cluster) (moves : List Move) :
    (cluster.play moves).dials = cluster.dials + (moves.filterMap Move.dialled?).length := by
  induction moves generalizing cluster with
  | nil => rfl
  | cons move rest ih =>
      rw [play_cons, ih, dials_move]
      cases hdialled : move.dialled? with
      | none => rw [List.filterMap_cons_none hdialled]; rfl
      | some addr => rw [List.filterMap_cons_some hdialled]; simp; omega

/-! ### What is at an address -/

def taker? (cluster : Cluster) (addr : String) : Option (NodeId × Node) := do
  let node ← cluster.nodeAt? addr
  let taker ← cluster.nodes[node]?
  if taker.running then some (node, taker) else none

def roleAt? (cluster : Cluster) (addr : String) : Option Role :=
  (cluster.taker? addr).bind fun (_, taker) =>
    if taker.linkUp then some (Role.ofReadOnly taker.readOnly) else none

/-- What becomes of a connection that is dialled to an address and then classified: it is closed again if its
link is down. -/
def outcomeAt? (cluster : Cluster) (queue : QueueId) (addr : String) : Option Connection :=
  (cluster.taker? addr).map fun (node, taker) =>
    { addr, node, queue, link := if taker.linkUp then .connected else .closed }

theorem taker?_eq_some_iff :
    cluster.taker? addr = some (node, taker) ↔ cluster.Accepts addr node taker := by
  simp only [taker?, Option.bind_eq_bind, Option.bind_eq_some_iff, Option.ite_none_right_eq_some,
    Option.some.injEq, Prod.mk.injEq]
  constructor
  · rintro ⟨_, hnodeAt, _, hnode, hrunning, rfl, rfl⟩
    exact ⟨hnodeAt, hnode, hrunning⟩
  · rintro ⟨hnodeAt, hnode, hrunning⟩
    exact ⟨node, hnodeAt, taker, hnode, hrunning, rfl, rfl⟩

theorem taker?_eq_none (hrefused : ¬∃ node taker, cluster.Accepts addr node taker) :
    cluster.taker? addr = none :=
  Option.eq_none_iff_forall_ne_some.mpr fun _ hfound => hrefused ⟨_, _, taker?_eq_some_iff.mp hfound⟩

theorem roleAt?_of_accepts (haccepts : cluster.Accepts addr node taker) :
    cluster.roleAt? addr = if taker.linkUp then some (Role.ofReadOnly taker.readOnly) else none := by
  rw [roleAt?, taker?_eq_some_iff.mpr haccepts]
  rfl

theorem outcomeAt?_of_accepts (haccepts : cluster.Accepts addr node taker) :
    cluster.outcomeAt? queue addr =
      some { addr, node, queue, link := if taker.linkUp then .connected else .closed } := by
  rw [outcomeAt?, taker?_eq_some_iff.mpr haccepts]
  rfl

theorem exists_roleAt?_iff : (∃ role, cluster.roleAt? addr = some role) ↔
    ∃ node taker, cluster.Accepts addr node taker ∧ taker.linkUp = true := by
  constructor
  · rintro ⟨role, hrole⟩
    obtain ⟨⟨node, taker⟩, htaker, hup⟩ := Option.bind_eq_some_iff.mp hrole
    exact ⟨node, taker, taker?_eq_some_iff.mp htaker, (Option.ite_none_right_eq_some.mp hup).1⟩
  · rintro ⟨node, taker, haccepts, hup⟩
    exact ⟨_, by rw [roleAt?_of_accepts haccepts, if_pos hup]⟩

/-- What is at an address is told by the nodes and the directory. -/
theorem taker?_congr (hnodes : later.nodes = cluster.nodes)
    (hdirectory : later.directory = cluster.directory) : later.taker? = cluster.taker? := by
  funext addr
  rw [taker?, taker?, nodeAt?, nodeAt?, hnodes, hdirectory]

theorem connections_close_concat {present : Connection} {old : List Connection}
    (hconnections : cluster.connections = old ++ [present]) :
    (cluster.close old.length).connections = old ++ [{ present with link := present.link.close.1 }] := by
  apply List.ext_getElem?
  intro id
  rw [close, getElem?_connections_shift, hconnections]
  rcases Nat.lt_trichotomy id old.length with hlt | rfl | hgt
  · rw [List.getElem?_append_left hlt, List.getElem?_append_left hlt]
    cases old[id]? <;> simp [Nat.ne_of_lt hlt]
  · simp
  · have hbeyond : ∀ last : Connection, (old ++ [last])[id]? = none := fun last =>
      List.getElem?_eq_none (by rw [List.length_append]; exact hgt)
    rw [hbeyond, hbeyond]
    rfl

end Cluster

/-- What an attempt at an address has brought: a new connection under the role of its node, or none. -/
structure Attempt.Brings (cluster later : Cluster) (queue : QueueId) (addr : String) (attempt : Attempt) :
    Prop where
  addr_eq : attempt.addr = addr
  elapsed_eq : attempt.elapsed = 0
  role_eq : attempt.result.toOption.map Prod.snd = cluster.roleAt? addr
  made : ∀ {connection : ConnectionId} {role : Role}, attempt.result = .ok (connection, role) →
    cluster.connections.length ≤ connection ∧ ∃ present, cluster.outcomeAt? queue addr = some present ∧
      later.connections[connection]? = some present

theorem Attempt.brings_error {cluster later : Cluster} {queue : QueueId} {addr : String}
    (hnone : cluster.roleAt? addr = none) (cause : PoolError) :
    Attempt.Brings cluster later queue addr ⟨addr, 0, .error cause⟩ where
  addr_eq := rfl
  elapsed_eq := rfl
  role_eq := hnone.symm
  made hresult := by cases hresult

namespace World

variable {world middle later : World} {queue : QueueId} {addr : String} {addrs rest : List String}
  {attempts others : List Attempt} {limit : Nat}

structure Tried (world : World) (queue : QueueId) (addrs : List String) (later : World)
    (attempts : List Attempt) : Prop where
  frame : later = { world with cluster := later.cluster }
  nodes_eq : later.cluster.nodes = world.cluster.nodes
  directory_eq : later.cluster.directory = world.cluster.directory
  /-- Every node that runs has got a connection. -/
  connections_eq : later.cluster.connections =
    world.cluster.connections ++ addrs.filterMap (world.cluster.outcomeAt? queue)
  /-- Every address was dialled, one after the other. -/
  dialled : ∃ moves, later.cluster = world.cluster.play moves ∧ moves.filterMap Move.dialled? = addrs
  brings : List.Forall₂ (Attempt.Brings world.cluster later.cluster queue) addrs attempts

theorem tried_nil (world : World) (queue : QueueId) : world.Tried queue [] world [] where
  frame := rfl
  nodes_eq := rfl
  directory_eq := rfl
  connections_eq := (List.append_nil _).symm
  dialled := ⟨[], rfl, rfl⟩
  brings := .nil

theorem Tried.outcomeAt?_eq (htried : world.Tried queue addrs later attempts) :
    later.cluster.outcomeAt? queue = world.cluster.outcomeAt? queue := by
  funext addr
  rw [Cluster.outcomeAt?, Cluster.outcomeAt?, Cluster.taker?_congr htried.nodes_eq htried.directory_eq]

theorem Tried.roleAt?_eq (htried : world.Tried queue addrs later attempts) :
    later.cluster.roleAt? = world.cluster.roleAt? := by
  funext addr
  rw [Cluster.roleAt?, Cluster.roleAt?, Cluster.taker?_congr htried.nodes_eq htried.directory_eq]

theorem Tried.append (hearly : world.Tried queue addrs middle attempts)
    (hlate : middle.Tried queue rest later others) :
    world.Tried queue (addrs ++ rest) later (attempts ++ others) where
  frame := by rw [hlate.frame, hearly.frame]
  nodes_eq := hlate.nodes_eq.trans hearly.nodes_eq
  directory_eq := hlate.directory_eq.trans hearly.directory_eq
  connections_eq := by
    rw [hlate.connections_eq, hearly.connections_eq, hearly.outcomeAt?_eq, List.filterMap_append,
      List.append_assoc]
  dialled := by
    obtain ⟨before, hbefore, hdialled⟩ := hearly.dialled
    obtain ⟨after, hafter, hothers⟩ := hlate.dialled
    refine ⟨before ++ after, ?_, ?_⟩
    · rw [Cluster.play_append, ← hbefore, hafter]
    · rw [List.filterMap_append, hdialled, hothers]
  brings := by
    apply List.rel_append
    · refine hearly.brings.imp fun addr attempt hbrings => ⟨hbrings.addr_eq, hbrings.elapsed_eq,
        hbrings.role_eq, fun hresult => ?_⟩
      obtain ⟨hnew, present, houtcome, hpresent⟩ := hbrings.made hresult
      refine ⟨hnew, present, houtcome, ?_⟩
      rw [hlate.connections_eq, List.getElem?_append_left (List.getElem?_eq_some_iff.mp hpresent).1,
        hpresent]
    · refine hlate.brings.imp fun addr attempt hbrings => ⟨hbrings.addr_eq, hbrings.elapsed_eq,
        hbrings.role_eq.trans (congrFun hearly.roleAt?_eq addr), fun hresult => ?_⟩
      obtain ⟨hnew, present, houtcome, hpresent⟩ := hbrings.made hresult
      rw [hearly.outcomeAt?_eq] at houtcome
      refine ⟨Nat.le_trans ?_ hnew, present, houtcome, hpresent⟩
      rw [hearly.connections_eq, List.length_append]
      exact Nat.le_add_right _ _

/-! ### One attempt -/

theorem tried_attempt_refused (hprompt : world.Faithful 0 addr)
    (hrefused : ¬∃ node taker, world.cluster.Accepts addr node taker) :
    world.Tried queue [addr] (world.attempt queue limit addr).1 [(world.attempt queue limit addr).2] := by
  have hdelay : (world.script addr).dialDelay = 0 := Nat.le_zero.mp hprompt.dial_le
  have hattempt : world.attempt queue limit addr =
      ({ world with cluster := { world.cluster with dials := world.cluster.dials + 1 } },
        ⟨addr, 0, .error (.connection (.refused addr))⟩) := by
    simp only [attempt, beginAttempt, hdelay, waitWithin, Nat.zero_le, if_true, dial,
      Cluster.dial_of_refused hrefused]
  have hnobody := Cluster.taker?_eq_none hrefused
  rw [hattempt]
  constructor
  case frame => rfl
  case nodes_eq => rfl
  case directory_eq => rfl
  case connections_eq => simp [Cluster.outcomeAt?, hnobody]
  case dialled =>
    refine ⟨[.dial addr queue], ?_, rfl⟩
    simp [Cluster.play, Cluster.move, Cluster.dial_of_refused hrefused]
  case brings =>
    refine .cons (Attempt.brings_error ?_ _) .nil
    simp [Cluster.roleAt?, hnobody]

section Accepted

variable {node : NodeId} {taker : Node} (hprompt : world.Faithful 0 addr)
  (haccepts : world.cluster.Accepts addr node taker)
include hprompt haccepts

/-- An attempt at a node that runs goes by the answer of the node, and the connection is closed if there is
none. -/
theorem attempt_of_accepts (queue : QueueId) (limit : Nat) : ∃ outcome : Except PoolError Role,
    outcome.toOption = world.cluster.roleAt? addr ∧
      world.attempt queue limit addr =
        match outcome with
        | .ok role => ((world.dial addr queue).1,
            ⟨addr, 0, .ok (world.cluster.connections.length, role)⟩)
        | .error cause => (((world.dial addr queue).1.close world.cluster.connections.length).1,
            ⟨addr, 0, .error cause⟩) := by
  have hdelay : (world.script addr).dialDelay = 0 := Nat.le_zero.mp hprompt.dial_le
  have hreport : (world.script addr).infoDelay = 0 := Nat.le_zero.mp hprompt.info_le
  have hextends := extends_dial world addr queue
  have hscript : (world.dial addr queue).1.script addr = world.script addr := hextends.script_eq
  have hdial : world.dial addr queue =
      ((world.dial addr queue).1, .ok world.cluster.connections.length) := by
    simp only [dial, Cluster.dial_of_accepts haccepts]
  have haddr : (Cluster.fresh addr queue node taker).addr = addr := rfl
  obtain ⟨hsame, hrole⟩ := answer_introspect (getElem?_connections_dial queue haccepts)
    (hscript.symm ▸ hprompt.info_le)
  rw [hextends.verdict_eq, ← trial_eq_verdict queue hprompt.dial_le haccepts, hprompt.trial haccepts,
    ← Cluster.roleAt?_of_accepts haccepts, haddr, hscript] at hrole
  rw [haddr, hscript] at hsame
  refine ⟨_, hrole, ?_⟩
  generalize (world.dial addr queue).1 = dialled at *
  have hattempt : world.attempt queue limit addr =
      dialled.endAttempt limit addr world.cluster.connections.length 0 := by
    simp only [attempt, beginAttempt, hdelay, waitWithin, Nat.zero_le, if_true, hdial]
  rw [hattempt]
  cases hreply : Role.ofOutcome (dialled.answer world.cluster.connections.length .introspect
    (world.script addr)).2 with
  | ok role => simp only [endAttempt, waitWithin, Nat.zero_le, if_true, hscript, hreport, hsame, hreply]
  | error cause => simp only [endAttempt, waitWithin, Nat.zero_le, if_true, hscript, hreport, hsame, hreply]

theorem tried_attempt_accepted (queue : QueueId) (limit : Nat) :
    world.Tried queue [addr] (world.attempt queue limit addr).1 [(world.attempt queue limit addr).2] := by
  obtain ⟨outcome, houtcome, hattempt⟩ := attempt_of_accepts hprompt haccepts queue limit
  have hdial : (world.dial addr queue).1 = { world with cluster := (world.cluster.dial addr queue).1 } := rfl
  have hconnections : (world.cluster.dial addr queue).1.connections =
      world.cluster.connections ++ [Cluster.fresh addr queue node taker] := by
    simp only [Cluster.dial_of_accepts haccepts, Cluster.connections_deliver]
  rw [Cluster.roleAt?_of_accepts haccepts] at houtcome
  rw [hattempt, hdial]
  cases outcome with
  | ok role =>
      have hup : taker.linkUp = true := by
        by_contra hdown
        rw [if_neg hdown] at houtcome
        cases houtcome
      -- the node has answered, so its link is up and the connection is left open
      have hstays : world.cluster.outcomeAt? queue addr = some (Cluster.fresh addr queue node taker) := by
        rw [Cluster.outcomeAt?_of_accepts haccepts, Cluster.fresh, if_pos hup, if_pos hup]
      constructor
      case frame => rfl
      case nodes_eq => exact Cluster.nodes_dial _ _ _
      case directory_eq => exact Cluster.directory_dial _ _ _
      case connections_eq => rw [List.filterMap_cons_some hstays, List.filterMap_nil, hconnections]
      case dialled => exact ⟨[.dial addr queue], rfl, rfl⟩
      case brings =>
        refine .cons ⟨rfl, rfl, ?_, ?_⟩ .nil
        · rw [Cluster.roleAt?_of_accepts haccepts, ← houtcome]
          rfl
        · intro connection role hresult
          cases hresult
          exact ⟨Nat.le_refl _, _, hstays, getElem?_connections_dial queue haccepts⟩
  | error cause =>
      have hdown : ¬taker.linkUp = true := by
        intro hup
        rw [if_pos hup] at houtcome
        cases houtcome
      have hclosed : world.cluster.outcomeAt? queue addr =
          some { Cluster.fresh addr queue node taker with link := .closed } := by
        rw [Cluster.outcomeAt?_of_accepts haccepts, if_neg hdown]
        rfl
      constructor
      case frame => rfl
      case nodes_eq => exact Cluster.nodes_shift.trans (Cluster.nodes_dial _ _ _)
      case directory_eq => exact Cluster.directory_shift.trans (Cluster.directory_dial _ _ _)
      case connections_eq =>
        rw [List.filterMap_cons_some hclosed, List.filterMap_nil]
        refine (Cluster.connections_close_concat hconnections).trans ?_
        rw [Cluster.fresh, if_neg hdown]
        rfl
      case dialled =>
        exact ⟨[.dial addr queue, .close world.cluster.connections.length], rfl, rfl⟩
      case brings =>
        refine .cons (Attempt.brings_error ?_ _) .nil
        rw [Cluster.roleAt?_of_accepts haccepts, ← houtcome]
        rfl

end Accepted

theorem tried_attempt (hprompt : world.Faithful 0 addr) (queue : QueueId) (limit : Nat) :
    world.Tried queue [addr] (world.attempt queue limit addr).1 [(world.attempt queue limit addr).2] := by
  by_cases haccepts : ∃ node taker, world.cluster.Accepts addr node taker
  · obtain ⟨node, taker, haccepts⟩ := haccepts
    exact tried_attempt_accepted hprompt haccepts queue limit
  · exact tried_attempt_refused hprompt haccepts

/-! ### All attempts -/

theorem Tried.faithful {other : String} (htried : world.Tried queue addrs later attempts)
    (hprompt : world.Faithful limit other) : later.Faithful limit other := by
  have hscript : later.script other = world.script other := by rw [htried.frame]; rfl
  constructor <;> rw [hscript]
  · exact hprompt.dial_le
  · exact hprompt.info_le
  · exact hprompt.info_eq
  · exact hprompt.infoFailure_eq

theorem tried_attemptAll (hprompt : ∀ addr ∈ addrs, world.Faithful 0 addr) (queue : QueueId) (limit : Nat) :
    world.Tried queue addrs (world.attemptAll queue limit addrs).1
      (world.attemptAll queue limit addrs).2 := by
  induction addrs generalizing world with
  | nil => exact tried_nil world queue
  | cons addr rest ih =>
      have hfirst := tried_attempt (hprompt addr List.mem_cons_self) queue limit
      exact hfirst.append (ih fun other hmem => hfirst.faithful (hprompt other (List.mem_cons_of_mem _ hmem)))

end World

end ReplicaPool
