import ReplicaPool.Proofs.RoundRobin.Closing
import ReplicaPool.Proofs.System.Finality

/-!
# Calls that close a pool

Of all calls that close a pool, at once or one after the other, the first closes every connection of the
pool once, masters first and both subpools in the order of rotation, and returns exactly the complaints.
`System.closings` is the record of it: each connection that such calls close in a run, with the complaint
that this ends with. All other calls find the pool closed, close nothing and return nothing.
-/

namespace ReplicaPool

abbrev Closing := ConnectionId × Option ConnectionError

def complaintsOf (closings : List Closing) : List PoolError :=
  (closings.filterMap Prod.snd).map .connection

theorem complaintsOf_append (early late : List Closing) :
    complaintsOf (early ++ late) = complaintsOf early ++ complaintsOf late := by
  rw [complaintsOf, complaintsOf, complaintsOf, List.filterMap_append, List.map_append]

/-! ### At one go -/

namespace World

variable {world : World} {service : ServiceId} {present : Service}

def complaint? (world : World) (connection : ConnectionId) : Option ConnectionError :=
  (world.script (world.cluster.connectionAddr connection)).closeFailure.map .client

def closing (connection : ConnectionId) (world : World) : Option ConnectionError × World :=
  ((world.close connection).2, (world.close connection).1)

theorem connectionAddr_close (cluster : Cluster) (closed connection : ConnectionId) :
    (cluster.close closed).connectionAddr connection = cluster.connectionAddr connection := by
  rw [Cluster.connectionAddr, Cluster.connectionAddr, Cluster.close, Cluster.getElem?_connections_shift]
  cases cluster.connections[connection]? with
  | none => rfl
  | some found =>
      rw [Option.map_some]
      dsimp only
      split <;> rfl

theorem complaint?_closing (world : World) (connection : ConnectionId) :
    (closing connection world).2.complaint? = world.complaint? := by
  funext other
  have haddr : (closing connection world).2.cluster.connectionAddr other =
      world.cluster.connectionAddr other := connectionAddr_close world.cluster connection other
  rw [complaint?, complaint?, haddr]
  rfl

theorem closeAll_eq (world : World) (ring : RoundRobin ConnectionId) :
    world.closeAll ring = ring.closeAll closing world := rfl

theorem closeConnections_fst (world : World) (topology : Topology) :
    (world.closeConnections topology).1 =
      complaintsOf (RoundRobin.attempts closing topology.connections world) := by
  have hboth : (world.closeConnections topology).1 = ((world.closeAll topology.rw).1 ++
      ((world.closeAll topology.rw).2.closeAll topology.ro).1).map .connection := rfl
  have hconnections : topology.connections =
      topology.rw.members.map Prod.snd ++ topology.ro.members.map Prod.snd := List.map_append
  rw [hboth, closeAll_eq, closeAll_eq, RoundRobin.closeAll_eq, RoundRobin.closeAll_eq, hconnections,
    RoundRobin.attempts_append, complaintsOf_append, List.map_append]
  rfl

theorem closePool_of_open (hpresent : world.services[service]? = some present)
    (hopen : present.pool.isClosed = false) :
    world.closePool service =
      ((present.pool.topology.connections.filterMap world.complaint?).map .connection,
        { world.setPool service { present.pool with isClosed := true } with
          cluster := world.cluster.closeEach present.pool.topology.connections }) := by
  let shut := world.setPool service { present.pool with isClosed := true }
  have hshut : shut.services[service]? =
      some { present with pool := { present.pool with isClosed := true } } :=
    getElem?_modifyService hpresent _
  have hclose : world.closePool service = shut.closeConnections present.pool.topology := by
    simp only [closePool, shutPool, hpresent, Pool.shut, hopen, Bool.false_eq_true, if_false, if_true,
      closeMembers]
    rw [show (world.setPool service { present.pool with isClosed := true }) = shut from rfl, hshut]
  have hcomplaints := RoundRobin.filterMap_attempts closing complaint? (fun _ _ => rfl) complaint?_closing
    present.pool.topology.connections shut
  rw [hclose, Prod.ext_iff, closeConnections_fst, closeConnections_snd, complaintsOf, hcomplaints]
  exact ⟨rfl, rfl⟩

end World

/-! ### Piece by piece -/

namespace System

variable {system : System} {service : ServiceId} {present : Service} {place pieces : Nat} {action : Action}
  {connections pending : List ConnectionId} {done : List Closing}

def closing? (service : ServiceId) (system : System) : Action → Option Closing
  | .advance place _ =>
      match system.calls[place]? with
      | some (.close other (connection :: _) _) =>
          if other = service then some (connection, (system.world.close connection).2) else none
      | _ => none
  | _ => none

def closings (service : ServiceId) : System → List Action → List Closing
  | _, [] => []
  | system, action :: rest =>
      (system.closing? service action).toList ++ closings service (system.act action) rest

/-- Such a piece closes that connection and does nothing else to the world, or nothing at all. -/
theorem world_act_of_closes {call : Call} (hcall : system.calls[place]? = some call)
    (hcloses : call.closes service = true) (step : Nat) :
    (system.act (.advance place step)).world =
      match system.closing? service (.advance place step) with
      | some closing => (system.world.close closing.1).1
      | none => system.world := by
  cases call with
  | close other pending complaints =>
      have hother : other = service := by simpa [Call.closes] using hcloses
      cases pending <;> simp [act, closing?, hcall, Call.advance, hother]
  | closed other complaints => simp [act, closing?, hcall, Call.advance]
  | _ => cases hcloses

/-- How far the call that closes some connections has come, with what it has closed so far. -/
inductive Progress (service : ServiceId) (connections : List ConnectionId) (done : List Closing)
    (pieces : Nat) : Call → Prop
  | closing {pending : List ConnectionId} (hpieces : done.length = pieces)
      (hleft : done.map Prod.fst ++ pending = connections) :
      Progress service connections done pieces (.close service pending (complaintsOf done))
  | finished (hpieces : connections.length < pieces) (hall : done.map Prod.fst = connections) :
      Progress service connections done pieces (.closed service (complaintsOf done))

def isPieceOf (place : Nat) : Action → Bool
  | .advance other _ => other == place
  | _ => false

/-- A closed pool is being closed by the call at one place only. -/
structure ClosedAt (system : System) (service : ServiceId) (place : Nat) (connections : List ConnectionId)
    (done : List Closing) (pieces : Nat) : Prop where
  call : ∃ call, system.calls[place]? = some call ∧ Progress service connections done pieces call
  others : ∀ {other : Nat} {call : Call}, other ≠ place → system.calls[other]? = some call →
    call.closes service = true → call = .closed service []
  isClosed : ∃ present, system.world.services[service]? = some present ∧ present.pool.isClosed = true

theorem Progress.closes {call : Call} (hprogress : Progress service connections done pieces call) :
    call.closes service = true := by
  cases hprogress <;> simp [Call.closes]

theorem closing?_of_not_piece (hclosed : system.ClosedAt service place connections done pieces)
    (hother : isPieceOf place action = false) : system.closing? service action = none := by
  cases action with
  | advance other step =>
      have hne : other ≠ place := by simpa [isPieceOf] using hother
      rw [closing?]
      split
      · rename_i another connection rest complaints hcall
        rw [if_neg]
        rintro rfl
        have hover := hclosed.others hne hcall (by simp [Call.closes])
        cases hover
      · rfl
  | _ => rfl

theorem Progress.advance {call : Call} (hprogress : Progress service connections done pieces call)
    (hcall : system.calls[place]? = some call) (step : Nat) :
    Progress service connections (done ++ (system.closing? service (.advance place step)).toList) (pieces + 1)
      (call.advance system.world step).2 := by
  cases hprogress with
  | @closing pending hpieces hleft =>
      cases pending with
      | nil =>
          have hnone : system.closing? service (.advance place step) = none := by simp [closing?, hcall]
          rw [hnone, Option.toList_none, List.append_nil]
          rw [List.append_nil] at hleft
          refine .finished ?_ hleft
          rw [← hleft, List.length_map, hpieces]
          exact Nat.lt_succ_self pieces
      | cons connection rest =>
          have hsome : system.closing? service (.advance place step) =
              some (connection, (system.world.close connection).2) := by simp [closing?, hcall]
          have hcomplaint : complaintsOf [(connection, (system.world.close connection).2)] =
              (system.world.close connection).2.toList.map .connection := by
            cases (system.world.close connection).2 <;> simp [complaintsOf]
          have hnext : Progress service connections
              (done ++ [(connection, (system.world.close connection).2)]) (pieces + 1)
              (.close service rest
                (complaintsOf (done ++ [(connection, (system.world.close connection).2)]))) :=
            .closing (by simp [hpieces]) (by simpa using hleft)
          rw [complaintsOf_append, hcomplaint] at hnext
          rw [hsome]
          exact hnext
  | finished hpieces hall =>
      have hnone : system.closing? service (.advance place step) = none := by simp [closing?, hcall]
      rw [hnone, Option.toList_none, List.append_nil]
      exact .finished (Nat.lt_succ_of_lt hpieces) hall

namespace ClosedAt

variable {other step : Nat} {call fresh : Call}

theorem stays_closed (hclosed : system.ClosedAt service place connections done pieces) (action : Action) :
    ∃ next, (system.act action).world.services[service]? = some next ∧ next.pool.isClosed = true := by
  obtain ⟨present, hpresent, hshut⟩ := hclosed.isClosed
  obtain ⟨next, hnext, hcontinues⟩ := continues_act hpresent action
  exact ⟨next, hnext, by rw [hcontinues.frozen hshut, hshut]⟩

theorem piece (hclosed : system.ClosedAt service place connections done pieces) (step : Nat) :
    (system.act (.advance place step)).ClosedAt service place connections
      (done ++ (system.closing? service (.advance place step)).toList) (pieces + 1) := by
  obtain ⟨call, hcall, hprogress⟩ := hclosed.call
  have hcalls : (system.act (.advance place step)).calls =
      system.calls.set place (call.advance system.world step).2 := by simp [act, hcall]
  refine ⟨⟨_, ?_, hprogress.advance hcall step⟩, ?_, hclosed.stays_closed _⟩
  · rw [hcalls, List.getElem?_set_self (List.getElem?_eq_some_iff.mp hcall).1]
  · intro another found hne hfound hcloses
    rw [hcalls, List.getElem?_set_ne (Ne.symm hne)] at hfound
    exact hclosed.others hne hfound hcloses

/-- A call that is added does not close this pool, or finds it closed. -/
theorem append (hclosed : system.ClosedAt service place connections done pieces)
    (hcalls : (system.act action).calls = system.calls ++ [fresh])
    (hfresh : fresh.closes service = true → fresh = .closed service []) :
    (system.act action).ClosedAt service place connections done pieces := by
  obtain ⟨call, hcall, hprogress⟩ := hclosed.call
  refine ⟨⟨call, ?_, hprogress⟩, ?_, hclosed.stays_closed action⟩
  · rw [hcalls, List.getElem?_append_left (List.getElem?_eq_some_iff.mp hcall).1, hcall]
  · intro another found hne hfound hcloses
    rw [hcalls, List.getElem?_append] at hfound
    split at hfound
    · exact hclosed.others hne hfound hcloses
    · obtain rfl := List.mem_singleton.mp (List.mem_of_getElem? hfound)
      exact hfresh hcloses

theorem elsewhere (hclosed : system.ClosedAt service place connections done pieces) (hother : other ≠ place)
    (hpresent : system.calls[other]? = some call)
    (hcalls : (system.act action).calls = system.calls.set other (call.advance system.world step).2) :
    (system.act action).ClosedAt service place connections done pieces := by
  obtain ⟨closing, hclosing, hprogress⟩ := hclosed.call
  refine ⟨⟨closing, by rw [hcalls, List.getElem?_set_ne hother, hclosing], hprogress⟩, ?_,
    hclosed.stays_closed action⟩
  intro another found hanother hfound hcloses
  rw [hcalls] at hfound
  by_cases hsame : another = other
  · subst hsame
    rw [List.getElem?_set_self (List.getElem?_eq_some_iff.mp hpresent).1] at hfound
    cases hfound
    rw [closes_advance] at hcloses
    rw [hclosed.others hanother hpresent hcloses]
    rfl
  · rw [List.getElem?_set_ne (Ne.symm hsame)] at hfound
    exact hclosed.others hanother hfound hcloses

theorem act (hclosed : system.ClosedAt service place connections done pieces) (action : Action) :
    (system.act action).ClosedAt service place connections
      (done ++ (system.closing? service action).toList)
      (pieces + if isPieceOf place action then 1 else 0) := by
  by_cases hpiece : isPieceOf place action = true
  · cases action with
    | advance other step =>
        obtain rfl : other = place := by simpa [isPieceOf] using hpiece
        rw [if_pos hpiece]
        exact hclosed.piece step
    | _ => cases hpiece
  · have hother := Bool.eq_false_iff.mpr hpiece
    rw [closing?_of_not_piece hclosed hother, Option.toList_none, List.append_nil, if_neg hpiece,
      Nat.add_zero]
    cases callsStep_act system action with
    | same hidle hcalls =>
        obtain ⟨call, hcall, hprogress⟩ := hclosed.call
        refine ⟨⟨call, by rw [hcalls, hcall], hprogress⟩, ?_, hclosed.stays_closed action⟩
        rw [hcalls]
        exact hclosed.others
    | build haction hprepare hcalls => exact hclosed.append hcalls fun hcloses => by cases hcloses
    | refuse haction hpresent hshut hcalls =>
        refine hclosed.append hcalls fun hcloses => ?_
        rw [Call.closes, beq_iff_eq] at hcloses
        rw [hcloses]
    | @shut another present next haction hpresent hopen hnext hshut hcalls =>
        -- this pool is not open any more
        refine hclosed.append hcalls fun hcloses => ?_
        obtain rfl : another = service := by simpa [Call.closes] using hcloses
        obtain ⟨found, hfound, hfoundClosed⟩ := hclosed.isClosed
        rw [hpresent] at hfound
        cases hfound
        rw [hopen] at hfoundClosed
        cases hfoundClosed
    | @advance other step present haction hpresent hcalls =>
        have hne : other ≠ place := by
          rintro rfl
          rw [haction, isPieceOf, beq_self_eq_true] at hother
          cases hother
        exact hclosed.elsewhere hne hpresent hcalls

theorem run (hclosed : system.ClosedAt service place connections done pieces)
    (actions : List Action) :
    (system.run actions).ClosedAt service place connections (done ++ system.closings service actions)
      (pieces + actions.countP (isPieceOf place)) := by
  induction actions generalizing system done pieces with
  | nil =>
      rw [closings, List.append_nil]
      exact hclosed
  | cons action rest ih =>
      have hlater := ih (hclosed.act action)
      rw [List.append_assoc, Nat.add_assoc] at hlater
      rw [run_cons, closings, List.countP_cons, Nat.add_comm (rest.countP _)]
      exact hlater

theorem isPrefix (hclosed : system.ClosedAt service place connections done pieces) :
    done.map Prod.fst <+: connections := by
  obtain ⟨call, -, hprogress⟩ := hclosed.call
  cases hprogress with
  | @closing pending hpieces hleft => exact ⟨pending, hleft⟩
  | finished hpieces hall => exact hall ▸ List.prefix_rfl

/-- Each piece closes one connection, so after one more the call has returned. -/
theorem returned (hclosed : system.ClosedAt service place connections done pieces)
    (hpieces : connections.length < pieces) :
    system.calls[place]? = some (.closed service (complaintsOf done)) := by
  obtain ⟨call, hcall, hprogress⟩ := hclosed.call
  cases hprogress with
  | @closing pending hdone hleft =>
      have hlength := congrArg List.length hleft
      rw [List.length_append, List.length_map, hdone] at hlength
      omega
  | finished hpieces hall => exact hcall

theorem of_returned (hclosed : system.ClosedAt service place connections done pieces)
    {complaints : List PoolError} (hreturned : system.calls[place]? = some (.closed service complaints)) :
    done.map Prod.fst = connections ∧ complaints = complaintsOf done := by
  obtain ⟨call, hcall, hprogress⟩ := hclosed.call
  rw [hcall] at hreturned
  cases hreturned
  cases hprogress with
  | finished hpieces hall => exact ⟨hall, rfl⟩

end ClosedAt

/-- Once somebody has shut a pool that was open, the call that did so is the one that closes it. -/
theorem Reachable.closedAt_shut (hreachable : system.Reachable)
    (hpresent : system.world.services[service]? = some present) (hopen : present.pool.isClosed = false) :
    (system.act (.shut service)).ClosedAt service system.calls.length present.pool.topology.connections
      [] 0 := by
  have hact := act_shut_of_open hpresent hopen
  have hcalls : (system.act (.shut service)).calls =
      system.calls ++ [.close service present.pool.topology.connections []] := by rw [hact]
  refine ⟨⟨_, ?_, .closing rfl (List.nil_append _)⟩, ?_, ?_⟩
  · rw [hcalls, List.getElem?_concat_length]
    rfl
  · intro other call hne hcall hcloses
    rw [hcalls, List.getElem?_append] at hcall
    split at hcall
    · obtain ⟨found, hfound, hshut⟩ := hreachable.closesOnce.shut (List.mem_of_getElem? hcall) hcloses
      rw [hpresent] at hfound
      cases hfound
      rw [hopen] at hshut
      cases hshut
    · rename_i hlater
      have hbound := (List.getElem?_eq_some_iff.mp hcall).1
      rw [List.length_singleton] at hbound
      omega
  · refine ⟨{ present with pool := { present.pool with isClosed := true } }, ?_, rfl⟩
    rw [hact]
    exact World.getElem?_modifyService hpresent _

/-! ### All calls -/

/-- The pieces of a closing call in a row come to what closing does at one go. -/
theorem run_close_eq (world : World) (calls : List Call) (pending : List ConnectionId)
    (complaints : List PoolError) :
    (System.mk world (calls ++ [.close service pending complaints])).run
        (List.replicate (pending.length + 1) (.advance calls.length 0)) =
      ⟨{ world with cluster := world.cluster.closeEach pending },
        calls ++ [.closed service
          (complaints ++ (pending.filterMap world.complaint?).map .connection)]⟩ := by
  induction pending generalizing world complaints with
  | nil =>
      rw [List.filterMap_nil, List.map_nil, List.append_nil]
      exact World.act_advance calls (.close service [] complaints) 0 rfl
  | cons connection rest ih =>
      have hrest := ih (world.close connection).1
        (complaints ++ (world.close connection).2.toList.map .connection)
      have hkept : (world.close connection).1.complaint? = world.complaint? :=
        World.complaint?_closing world connection
      have hfirst : (world.close connection).2 = world.complaint? connection := rfl
      rw [hkept, hfirst] at hrest
      have hadvance : (System.mk world (calls ++ [.close service (connection :: rest) complaints])).act
          (.advance calls.length 0) = ⟨(world.close connection).1, calls ++ [.close service rest
            (complaints ++ (world.close connection).2.toList.map .connection)]⟩ :=
        World.act_advance calls (.close service (connection :: rest) complaints) 0 rfl
      rw [List.length_cons, List.replicate_succ, run_cons, hadvance, hfirst, hrest, List.filterMap_cons]
      cases world.complaint? connection <;> simp [Cluster.closeEach, World.close]

/-- The first of all calls to close a pool closes each of its connections once and returns exactly the
complaints, whatever goes on meanwhile, and no other one closes anything or returns a complaint. -/
structure ClosesOut (system : System) (service : ServiceId) (present : Service) : Prop where
  connections_eq : present.pool.topology.connections =
    present.pool.topology.rw.members.map Prod.snd ++ present.pool.topology.ro.members.map Prod.snd
  connections_nodup : present.pool.topology.connections.Nodup
  /-- At any time the connections that all calls have closed are the first ones, each closed once. -/
  closed : ∀ actions, ((system.act (.shut service)).closings service actions).map Prod.fst <+:
    present.pool.topology.connections
  /-- The call returns after one piece for each connection and one more, whatever complaints there are. -/
  returns : ∀ actions, present.pool.topology.connections.length <
      actions.countP (isPieceOf system.calls.length) →
    ∃ complaints, ((system.act (.shut service)).run actions).calls[system.calls.length]? =
      some (.closed service complaints)
  returned : ∀ {actions : List Action} {complaints : List PoolError},
    ((system.act (.shut service)).run actions).calls[system.calls.length]? =
        some (.closed service complaints) →
      ((system.act (.shut service)).closings service actions).map Prod.fst =
          present.pool.topology.connections ∧
        complaints = complaintsOf ((system.act (.shut service)).closings service actions)
  others : ∀ {actions : List Action} {place : Nat} {call : Call}, place ≠ system.calls.length →
    ((system.act (.shut service)).run actions).calls[place]? = some call → call.closes service = true →
      call = .closed service []
  /-- At one go, the complaints are those of the connections that have one. -/
  closePool : (system.world.closePool service).1 =
    (present.pool.topology.connections.filterMap system.world.complaint?).map .connection
  closePool_run : (system.act (.shut service)).run
      (List.replicate (present.pool.topology.connections.length + 1) (.advance system.calls.length 0)) =
    ⟨(system.world.closePool service).2,
      system.calls ++ [.closed service (system.world.closePool service).1]⟩
  again : (system.world.closePool service).2.closePool service = ([], (system.world.closePool service).2)

theorem Reachable.closesOut (hreachable : system.Reachable)
    (hpresent : system.world.services[service]? = some present) (hopen : present.pool.isClosed = false) :
    system.ClosesOut service present where
  connections_eq := List.map_append
  connections_nodup := (hreachable.sound.upkeep hpresent).sound.connections_nodup
  closed := fun actions => ((hreachable.closedAt_shut hpresent hopen).run actions).isPrefix
  returns := fun actions hpieces =>
    ⟨_, ((hreachable.closedAt_shut hpresent hopen).run actions).returned (by simpa using hpieces)⟩
  returned := fun {actions complaints} hreturned =>
    ((hreachable.closedAt_shut hpresent hopen).run actions).of_returned hreturned
  others := fun {actions place call} hne hcall hcloses =>
    ((hreachable.closedAt_shut hpresent hopen).run actions).others hne hcall hcloses
  closePool := by rw [World.closePool_of_open hpresent hopen]
  closePool_run := by
    rw [act_shut_of_open hpresent hopen, run_close_eq, World.closePool_of_open hpresent hopen]
    rfl
  again := by
    have hnext : (system.world.closePool service).2.services[service]? =
        some { present with pool := { present.pool with isClosed := true } } := by
      rw [World.closePool_of_open hpresent hopen]
      exact World.getElem?_modifyService hpresent _
    exact World.closePool_of_closed hnext rfl

/-- Closing attempts every member once and returns every failure: one rotation with whatever its members
do when they are closed, and a pool with all calls that ever close it. A piece of such a call closes the one
connection that the record names, or nothing. -/
theorem closes_each_once :
    (∀ {α σ ε : Type} (close : α → σ → Option ε × σ) (ring : RoundRobin α) (state : σ),
      ring.ClosesEach close state) ∧
    (∀ session : RingSession, session.ClosesMembers) ∧
    (∀ {system : System} {service : ServiceId} {place : Nat} {call : Call},
      system.calls[place]? = some call → call.closes service = true → ∀ step,
        (system.act (.advance place step)).world =
          match system.closing? service (.advance place step) with
          | some closing => (system.world.close closing.1).1
          | none => system.world) ∧
    ∀ {system : System} {service : ServiceId} {present : Service}, system.Reachable →
      system.world.services[service]? = some present → present.pool.isClosed = false →
        system.ClosesOut service present :=
  ⟨fun close ring state => RoundRobin.closesEach close ring state, RingSession.closesMembers,
    fun hcall hcloses step => world_act_of_closes hcall hcloses step,
    fun hreachable hpresent hopen => hreachable.closesOut hpresent hopen⟩

def faultyRun : List Action :=
  [.change (.addNode "127.0.0.1:3301" false), .change (.addNode "127.0.0.1:3302" true),
    .script "127.0.0.1:3301" { closeFailure := some "broken pipe" },
    .script "127.0.0.1:3302" { closeFailure := some "timed out" },
    .prepare ["127.0.0.1:3302", "127.0.0.1:3301"] {},
    .advance 0 0, .advance 0 0, .advance 0 1, .advance 0 1] ++ List.replicate 4 (.advance 0 0)

theorem closes_each_once_faulty :
    ((run {} faultyRun).act (.shut 0)).run (List.replicate 3 (.advance 1 0)) =
      ⟨((run {} faultyRun).world.closePool 0).2, (run {} faultyRun).calls ++
        [.closed 0 [.connection (.client "broken pipe"), .connection (.client "timed out")]]⟩ ∧
    ((run {} faultyRun).act (.shut 0)).closings 0 (List.replicate 3 (.advance 1 0)) =
      [(1, some (.client "broken pipe")), (0, some (.client "timed out"))] ∧
    (((run {} faultyRun).act (.shut 0)).act (.advance 1 0)).world =
      (((run {} faultyRun).act (.shut 0)).world.close 1).1 := by
  have hservice : (run {} faultyRun).world.services[0]?.map (fun present =>
      (present.pool.isClosed, present.pool.topology.connections)) = some (false, [1, 0]) := by
    decide +kernel
  obtain ⟨present, hpresent, hvalues⟩ := Option.map_eq_some_iff.mp hservice
  obtain ⟨hopen, hconnections⟩ := Prod.mk.inj hvalues
  have hlength : (run {} faultyRun).calls.length = 1 := by decide +kernel
  have hrun : (run {} faultyRun).Reachable := ⟨faultyRun, rfl⟩
  have hreturned := (closes_each_once.2.2.2 hrun hpresent hopen).closePool_run
  have hcomplaints := (closes_each_once.2.2.2 hrun hpresent hopen).closePool
  have hscripts : [1, 0].filterMap (run {} faultyRun).world.complaint? =
      [.client "broken pipe", .client "timed out"] := by
    decide +kernel
  rw [hconnections, hscripts] at hcomplaints
  rw [hconnections, hlength, hcomplaints] at hreturned
  refine ⟨hreturned, by decide +kernel, ?_⟩
  have hcall : ((run {} faultyRun).act (.shut 0)).calls[1]? = some (.close 0 [1, 0] []) := by
    rw [act_shut_of_open hpresent hopen, hconnections, ← hlength, List.getElem?_concat_length]
  have hcloses : (Call.close 0 [1, 0] []).closes 0 = true := rfl
  rw [closes_each_once.2.2.1 hcall hcloses 0]
  simp [closing?, hcall]

end System

end ReplicaPool
