import ReplicaPool.Proofs.Cluster.Moves

/-!
# What connections report

A queue does not tell which connection an event comes from. `Cluster.reports` does: it lists what the
connections report of a move, in the order in which the reports reach their queues. As long as a queue has
room for them its events are exactly these reports. So what a connection has told in a run is well defined,
and it can be compared with the state that the connection is in.
-/

namespace ReplicaPool

structure LinkReport where
  connection : ConnectionId
  queue : QueueId
  event : Event

def Link.kind : Link → EventKind
  | .connected => .connected
  | .disconnected => .disconnected
  | .closed => .closed

def Connection.reports (present : Connection) (id : ConnectionId) (kinds : List EventKind) :
    List LinkReport :=
  kinds.map fun kind => ⟨id, present.queue, ⟨present.addr, kind⟩⟩

def Move.reports (move : Move) (connections : List Connection) : List LinkReport :=
  connections.zipIdx.flatMap fun (present, id) => present.reports id (move.effect id present).2

def told (id : ConnectionId) (reports : List LinkReport) : List EventKind :=
  (reports.filter fun report => report.connection == id).map fun report => report.event.kind

def heard (queue : QueueId) (reports : List LinkReport) : List Event :=
  (reports.filter fun report => report.queue == queue).map LinkReport.event

namespace Cluster

def greetings (cluster : Cluster) : Move → List LinkReport
  | .dial addr queue =>
      match (cluster.dial addr queue).2 with
      | .ok id => [⟨id, queue, ⟨addr, .connected⟩⟩]
      | .error _ => []
  | _ => []

def reports (cluster : Cluster) (move : Move) : List LinkReport :=
  move.reports cluster.connections ++ cluster.greetings move

def history (cluster : Cluster) : List Move → List LinkReport
  | [] => []
  | move :: rest => cluster.reports move ++ (cluster.move move).history rest

end Cluster

/-! ### One connection -/

section Told

variable {id other : ConnectionId} {present : Connection} {connections : List Connection}

theorem told_append (id : ConnectionId) (early late : List LinkReport) :
    told id (early ++ late) = told id early ++ told id late := by
  simp [told]

theorem told_reports (id other : ConnectionId) (present : Connection) (kinds : List EventKind) :
    told id (present.reports other kinds) = if other = id then kinds else [] := by
  by_cases hsame : other = id
  · simp [told, Connection.reports, hsame, List.filter_map, Function.comp_def]
  · simp [told, Connection.reports, hsame, List.filter_map, Function.comp_def]

theorem told_move_reports (move : Move) (connections : List Connection) (id : ConnectionId) :
    told id (move.reports connections) =
      ((connections[id]?).map fun present => (move.effect id present).2).getD [] := by
  induction connections using List.reverseRecOn with
  | nil => rfl
  | append_singleton earlier last ih =>
      rw [Move.reports, List.zipIdx_append, List.flatMap_append, told_append, ← Move.reports, ih]
      simp only [List.zipIdx_cons, List.zipIdx_nil, List.flatMap_cons, List.flatMap_nil,
        List.append_nil, Nat.zero_add, told_reports]
      rcases Nat.lt_trichotomy id earlier.length with hlt | rfl | hgt
      · rw [List.getElem?_append_left hlt, if_neg (Nat.ne_of_gt hlt), List.append_nil]
      · simp
      · rw [List.getElem?_eq_none (Nat.le_of_lt hgt), if_neg (Nat.ne_of_lt hgt),
          List.getElem?_eq_none (by simpa using Nat.succ_le_of_lt hgt)]
        rfl

end Told

namespace Cluster

variable {cluster : Cluster} {moves early late : List Move} {move : Move} {id : ConnectionId}
  {present : Connection}

theorem history_append (cluster : Cluster) (early late : List Move) :
    cluster.history (early ++ late) = cluster.history early ++ (cluster.play early).history late := by
  induction early generalizing cluster with
  | nil => rfl
  | cons move rest ih =>
      rw [List.cons_append, history, ih, history, List.append_assoc, play_cons]

theorem history_concat (cluster : Cluster) (moves : List Move) (move : Move) :
    cluster.history (moves ++ [move]) = cluster.history moves ++ (cluster.play moves).reports move := by
  rw [history_append, history, history, List.append_nil]

theorem greetings_of_accepts {addr : String} {queue : QueueId} {node : NodeId} {taker : Node}
    (haccepts : cluster.Accepts addr node taker) :
    cluster.greetings (.dial addr queue) =
      [⟨cluster.connections.length, queue, ⟨addr, .connected⟩⟩] := by
  rw [greetings, dial_of_accepts haccepts]

theorem greetings_of_refused {addr : String} {queue : QueueId}
    (hrefused : ¬∃ node taker, cluster.Accepts addr node taker) :
    cluster.greetings (.dial addr queue) = [] := by
  rw [greetings, dial_of_refused hrefused]

/-- Only the connection that a move makes greets. -/
theorem told_greetings_of_ne (hne : id ≠ cluster.connections.length) :
    told id (cluster.greetings move) = [] := by
  cases move with
  | dial addr queue =>
      by_cases haccepts : ∃ node taker, cluster.Accepts addr node taker
      · obtain ⟨node, taker, haccepts⟩ := haccepts
        simp [greetings_of_accepts haccepts, told, Ne.symm hne]
      · rw [greetings_of_refused haccepts]
        rfl
  | _ => rfl

theorem told_reports_of_present (hpresent : cluster.connections[id]? = some present) (move : Move) :
    told id (cluster.reports move) = (move.effect id present).2 := by
  have hlt := (List.getElem?_eq_some_iff.mp hpresent).1
  rw [reports, told_append, told_move_reports, hpresent, told_greetings_of_ne (Nat.ne_of_lt hlt),
    List.append_nil]
  rfl

theorem told_reports_of_dial {addr : String} {queue : QueueId} {node : NodeId} {taker : Node}
    (haccepts : cluster.Accepts addr node taker) :
    told cluster.connections.length (cluster.reports (.dial addr queue)) = [.connected] := by
  rw [reports, told_append, told_move_reports, List.getElem?_eq_none (Nat.le_refl _),
    greetings_of_accepts haccepts]
  simp [told]

theorem told_reports_of_missing (hmissing : (cluster.move move).connections.length ≤ id) :
    told id (cluster.reports move) = [] := by
  have hearlier := Nat.le_trans (evolves_move cluster move).length_le hmissing
  rw [reports, told_append, told_move_reports, List.getElem?_eq_none hearlier]
  rcases Nat.eq_or_lt_of_le hearlier with rfl | hlt
  · cases move with
    | dial addr queue =>
        by_cases haccepts : ∃ node taker, cluster.Accepts addr node taker
        · obtain ⟨node, taker, haccepts⟩ := haccepts
          rw [Cluster.move, dial_of_accepts haccepts, connections_deliver, List.length_append] at hmissing
          exact absurd hmissing (Nat.not_succ_le_self _)
        · rw [greetings_of_refused haccepts]
          rfl
    | _ => rfl
  · rw [told_greetings_of_ne (Nat.ne_of_gt hlt)]
    rfl

theorem told_history_of_missing (hmissing : (cluster.play moves).connections.length ≤ id) :
    told id (cluster.history moves) = [] := by
  induction moves generalizing cluster with
  | nil => rfl
  | cons move rest ih =>
      have hlater := (evolves_play (cluster.move move) rest).length_le
      rw [history, told_append, ih hmissing, told_reports_of_missing (Nat.le_trans hlater hmissing)]
      rfl

end Cluster

/-! ### Reports and states -/

section Effects

variable {link : Link} {kind : EventKind} {id : ConnectionId} {present : Connection}

/-- A change of a link that is reported ends with how the link is then. -/
def Truthful (link : Link) (changed : Link × List EventKind) : Prop :=
  changed = (link, []) ∨
    changed.2.getLast? = some changed.1.kind ∧ (.connected ∈ changed.2 → changed.1 = .connected)

theorem truthful_setUp (up : Bool) (link : Link) : Truthful link (link.setUp up) := by
  cases up <;> cases link <;> simp [Truthful, Link.setUp, Link.kind]

theorem truthful_terminate (link : Link) : Truthful link link.terminate := by
  cases link <;> simp [Truthful, Link.terminate, Link.kind]

theorem truthful_close (link : Link) : Truthful link link.close := by
  cases link <;> simp [Truthful, Link.close, Link.kind]

theorem truthful_effect (move : Move) (id : ConnectionId) (present : Connection) :
    Truthful present.link (move.effect id present) := by
  unfold Move.effect
  split
  · split
    · exact truthful_terminate present.link
    · exact Or.inl rfl
  · split
    · exact truthful_setUp _ present.link
    · exact Or.inl rfl
  · split
    · exact truthful_close present.link
    · exact Or.inl rfl
  · exact Or.inl rfl

end Effects

namespace Cluster

variable {cluster : Cluster} {moves early late : List Move} {move : Move} {id : ConnectionId}
  {present : Connection} {taker : Node}

/-- The last that a connection has told is how it is. Otherwise the link of its node was down when it was
dialled, and it has told nothing since. -/
def TellsState (present : Connection) (taker : Node) (kinds : List EventKind) : Prop :=
  kinds.getLast? = some present.link.kind ∨
    taker.linkUp = false ∧ present.link = .disconnected ∧ kinds = [.connected]

theorem tellsState_fresh (addr : String) (queue : QueueId) (node : NodeId) (taker : Node) :
    TellsState (fresh addr queue node taker) taker [.connected] := by
  cases hup : taker.linkUp <;> simp [TellsState, fresh, hup, Link.kind]

theorem TellsState.onConnection {kinds : List EventKind} (htells : TellsState present taker kinds)
    (move : Move) (id : ConnectionId) :
    TellsState (move.onConnection id present) taker (kinds ++ (move.effect id present).2) := by
  rcases truthful_effect move id present with hidle | ⟨hlast, -⟩
  · simpa [TellsState, Move.onConnection, hidle] using htells
  · left
    rw [List.getLast?_append, hlast]
    rfl

theorem exists_tellsState : ∀ (moves : List Move) (id : ConnectionId) (present : Connection),
    (play {} moves).connections[id]? = some present →
      ∃ early taker late, Origin moves id present early taker late ∧
        TellsState present taker (told id (history {} moves)) := by
  apply connection_induct
  · intro early addr queue node taker haccepts
    refine ⟨early, taker, [], origin_dial haccepts, ?_⟩
    rw [history_concat, told_append, told_history_of_missing (Nat.le_refl _),
      told_reports_of_dial haccepts]
    exact tellsState_fresh addr queue node taker
  · rintro moves move id present hpresent ⟨early, taker, late, horigin, htells⟩
    refine ⟨early, taker, late ++ [move], horigin.concat move, ?_⟩
    rw [history_concat, told_append, told_reports_of_present hpresent]
    exact htells.onConnection move id

theorem mem_told {report : LinkReport} {reports : List LinkReport} (hmem : report ∈ reports) :
    report.event.kind ∈ told report.connection reports :=
  List.mem_map_of_mem (List.mem_filter.mpr ⟨hmem, beq_self_eq_true _⟩)

/-- A connection that says that it is connected is so, unless it has just been dialled while the link of
its node was down. -/
theorem isConnected_of_report {report : LinkReport} (hreport : report ∈ cluster.reports move)
    (hkind : report.event.kind = .connected) :
    (cluster.move move).isConnected report.connection = true ∨
      ∃ addr queue node taker, move = .dial addr queue ∧ cluster.Accepts addr node taker ∧
        taker.linkUp = false := by
  have htold := mem_told hreport
  rw [hkind] at htold
  cases hpresent : cluster.connections[report.connection]? with
  | some present =>
      left
      rw [told_reports_of_present hpresent] at htold
      rw [isConnected, link_eq (getElem?_move hpresent move), Move.onConnection]
      rcases truthful_effect move report.connection present with hidle | ⟨-, hconnected⟩
      · rw [hidle] at htold
        cases htold
      · rw [hconnected htold]
        rfl
  | none =>
      have hmissing := List.getElem?_eq_none_iff.mp hpresent
      cases hlater : (cluster.move move).connections[report.connection]? with
      | none =>
          rw [told_reports_of_missing (List.getElem?_eq_none_iff.mp hlater)] at htold
          cases htold
      | some later =>
          obtain ⟨addr, queue, node, taker, hmove, haccepts, -, rfl⟩ :=
            exists_dial_of_made hlater hmissing
          cases hup : taker.linkUp with
          | false => exact Or.inr ⟨addr, queue, node, taker, hmove, haccepts, hup⟩
          | true =>
              left
              rw [isConnected, link_eq hlater, fresh, hup]
              rfl

end Cluster

/-! ### Queues -/

def Move.isForQueues : Move → Bool
  | .addQueue _ | .read _ _ | .leave _ => true
  | _ => false

section Queues

variable {queue other : QueueId} {present : EventQueue} {events : List Event}

theorem heard_append (queue : QueueId) (early late : List LinkReport) :
    heard queue (early ++ late) = heard queue early ++ heard queue late := by
  simp [heard]

/-- A queue with a reader takes events until it is full. -/
theorem EventQueue.emitAll_eq_take (hreader : present.hasReader = true) (events : List Event) :
    present.emitAll events = { present with
      pending := present.pending ++ events.take (present.capacity - present.pending.length) } := by
  induction events generalizing present with
  | nil => simp [emitAll]
  | cons event rest ih =>
      have hnext : present.emitAll (event :: rest) = (present.emit event).emitAll rest := rfl
      by_cases hfree : present.pending.length < present.capacity
      · let longer : EventQueue := { present with pending := present.pending ++ [event] }
        have hemit : present.emit event = longer := if_pos (by simp [hreader, hfree])
        have hcapacity : longer.capacity = present.capacity := rfl
        have hlonger : longer.pending.length = present.pending.length + 1 := List.length_append
        have hspace : present.capacity - present.pending.length =
            (longer.capacity - longer.pending.length) + 1 := by
          omega
        have hrest : longer.emitAll rest = { longer with
            pending := longer.pending ++ rest.take (longer.capacity - longer.pending.length) } :=
          ih hreader
        rw [hnext, hemit, hrest, hspace, List.take_succ_cons, List.append_cons]
      · have hemit : present.emit event = present := by
          rw [emit, if_neg (by simp [hfree])]
        rw [hnext, hemit, ih hreader, Nat.sub_eq_zero_of_le (Nat.le_of_not_lt hfree), List.take_zero,
          List.take_zero]

theorem EventQueue.emitAll_eq (hreader : present.hasReader = true)
    (hroom : present.pending.length + events.length ≤ present.capacity) :
    present.emitAll events = { present with pending := present.pending ++ events } := by
  rw [emitAll_eq_take hreader, List.take_of_length_le (by omega)]

theorem EventQueue.emitAll_append (present : EventQueue) (early late : List Event) :
    present.emitAll (early ++ late) = (present.emitAll early).emitAll late :=
  List.foldl_append

theorem EventQueue.capacity_emitAll (present : EventQueue) (events : List Event) :
    (present.emitAll events).capacity = present.capacity ∧
      (present.emitAll events).hasReader = present.hasReader := by
  induction events generalizing present with
  | nil => exact ⟨rfl, rfl⟩
  | cons event rest ih =>
      have hemit : (present.emit event).capacity = present.capacity ∧
          (present.emit event).hasReader = present.hasReader := by
        unfold emit
        split <;> exact ⟨rfl, rfl⟩
      obtain ⟨hcapacity, hreader⟩ := ih (present.emit event)
      exact ⟨hcapacity.trans hemit.1, hreader.trans hemit.2⟩

end Queues

namespace Cluster

variable {cluster : Cluster} {moves : List Move} {move : Move} {queue : QueueId}

def addressed (reports : List LinkReport) : List (QueueId × Event) :=
  reports.map fun report => (report.queue, report.event)

theorem getElem?_queues_deliver (cluster : Cluster) (reports : List LinkReport) (queue : QueueId) :
    (cluster.deliver (addressed reports)).queues[queue]? =
      (cluster.queues[queue]?).map fun present => present.emitAll (heard queue reports) := by
  induction reports generalizing cluster with
  | nil => simp [addressed, deliver, heard, EventQueue.emitAll]
  | cons report rest ih =>
      have hdeliver : cluster.deliver (addressed (report :: rest)) =
          (cluster.modifyQueue report.queue (·.emit report.event)).deliver (addressed rest) := rfl
      rw [hdeliver, ih, modifyQueue, List.getElem?_modify]
      by_cases hqueue : report.queue = queue
      · simp [hqueue, heard, EventQueue.emitAll, Function.comp_def]
      · simp [hqueue, heard]

/-- The reports of a shift are those of a move that changes links alike. -/
theorem emissions_eq {concerns : ConnectionId → Connection → Bool}
    {change : Link → Link × List EventKind} (connections : List Connection)
    (heffect : ∀ id present, move.effect id present =
      if concerns id present then change present.link else (present.link, [])) :
    emissions connections concerns change = addressed (move.reports connections) := by
  rw [emissions, addressed, Move.reports, List.map_flatMap]
  congr 1
  funext entry
  obtain ⟨present, id⟩ := entry
  dsimp only
  rw [heffect]
  split <;> simp [Connection.reports]

theorem reports_of_idle (heffect : ∀ id present, (move.effect id present).2 = [])
    (hgreetings : cluster.greetings move = []) : cluster.reports move = [] := by
  rw [reports, hgreetings, Move.reports, List.append_nil, List.flatMap_eq_nil_iff]
  rintro ⟨present, id⟩ -
  dsimp only
  rw [heffect, Connection.reports, List.map_nil]

theorem getElem?_queues_shift {concerns : ConnectionId → Connection → Bool}
    {change : Link → Link × List EventKind}
    (heffect : ∀ id present, move.effect id present =
      if concerns id present then change present.link else (present.link, [])) (queue : QueueId) :
    (cluster.shift concerns change).queues[queue]? = (cluster.queues[queue]?).map fun present =>
      present.emitAll (heard queue (move.reports cluster.connections)) := by
  rw [shift, emissions_eq cluster.connections heffect, getElem?_queues_deliver]

theorem getElem?_queues_of_idle (heffect : ∀ id present, (move.effect id present).2 = [])
    (hgreetings : cluster.greetings move = [])
    (hqueues : (cluster.move move).queues = cluster.queues) (queue : QueueId) :
    (cluster.move move).queues[queue]? = (cluster.queues[queue]?).map fun present =>
      present.emitAll (heard queue (cluster.reports move)) := by
  rw [reports_of_idle heffect hgreetings, hqueues]
  exact Option.map_id'.symm

theorem getElem?_queues_dial (addr : String) (other queue : QueueId) :
    (cluster.move (.dial addr other)).queues[queue]? = (cluster.queues[queue]?).map fun present =>
      present.emitAll (heard queue (cluster.reports (.dial addr other))) := by
  by_cases haccepts : ∃ node taker, cluster.Accepts addr node taker
  · obtain ⟨node, taker, haccepts⟩ := haccepts
    have hquiet : (Move.dial addr other).reports cluster.connections = [] := by
      rw [Move.reports, List.flatMap_eq_nil_iff]
      exact fun _ _ => rfl
    rw [Cluster.move, dial_of_accepts haccepts, reports, hquiet, greetings_of_accepts haccepts]
    exact getElem?_queues_deliver _ [⟨cluster.connections.length, other, ⟨addr, .connected⟩⟩] queue
  · refine getElem?_queues_of_idle (fun _ _ => rfl) (greetings_of_refused haccepts) ?_ queue
    rw [Cluster.move, dial_of_refused haccepts]

theorem queues_execute (cluster : Cluster) (connection : ConnectionId) (request : Request) :
    (cluster.execute connection request).1.queues = cluster.queues := by
  unfold execute
  split
  · rfl
  · split
    · rfl
    · rfl
    · split <;> rfl

/-- Other moves put their reports into the queues and do nothing else to them. -/
theorem getElem?_queues_move (hqueues : move.isForQueues = false) (queue : QueueId) :
    (cluster.move move).queues[queue]? = (cluster.queues[queue]?).map fun present =>
      present.emitAll (heard queue (cluster.reports move)) := by
  have hsilent : cluster.greetings move = [] →
      cluster.reports move = move.reports cluster.connections := by
    intro hgreetings
    rw [reports, hgreetings, List.append_nil]
  cases move with
  | change change =>
      cases change with
      | stop node =>
          rw [hsilent rfl]
          exact getElem?_queues_shift (fun _ _ => rfl) queue
      | setLink node up =>
          rw [hsilent rfl]
          exact getElem?_queues_shift (fun _ _ => rfl) queue
      | _ => exact getElem?_queues_of_idle (fun _ _ => rfl) rfl rfl queue
  | close connection =>
      rw [hsilent rfl]
      exact getElem?_queues_shift (fun _ _ => rfl) queue
  | dial addr other => exact getElem?_queues_dial addr other queue
  | execute connection request =>
      refine getElem?_queues_of_idle (fun _ _ => rfl) rfl ?_ queue
      exact queues_execute cluster connection request
  | release connections => exact getElem?_queues_of_idle (fun _ _ => rfl) rfl rfl queue
  | addQueue capacity => cases hqueues
  | read other count => cases hqueues
  | leave other => cases hqueues

def waiting (cluster : Cluster) (queue : QueueId) : List Event :=
  ((cluster.queues[queue]?).map EventQueue.pending).getD []

def taken (cluster : Cluster) (queue : QueueId) : Move → List Event
  | .read other count => if other = queue then (cluster.waiting queue).take count else []
  | _ => []

def received (cluster : Cluster) (queue : QueueId) : List Move → List Event
  | [] => []
  | move :: rest => cluster.taken queue move ++ (cluster.move move).received queue rest

/-- A move does not make a queue overflow: what it brings finds a reader and enough free places. -/
def HasRoom (cluster : Cluster) (queue : QueueId) (move : Move) : Prop :=
  heard queue (cluster.reports move) = [] ∨
    ∃ present, cluster.queues[queue]? = some present ∧ present.hasReader = true ∧
      present.pending.length + (heard queue (cluster.reports move)).length ≤ present.capacity

theorem waiting_modifyQueue (other : QueueId) (change : EventQueue → EventQueue) :
    (cluster.modifyQueue other change).waiting queue =
      ((cluster.queues[queue]?).map fun present =>
        (if other = queue then change present else present).pending).getD [] := by
  rw [waiting, modifyQueue, List.getElem?_modify]
  cases cluster.queues[queue]? with
  | none => rfl
  | some present => by_cases hqueue : other = queue <;> simp [hqueue]

theorem waiting_addQueue (capacity : Nat) :
    (cluster.addQueue capacity).2.waiting queue = cluster.waiting queue := by
  rw [waiting, waiting, addQueue, List.getElem?_append]
  split
  · rfl
  · rename_i hnew
    rw [List.getElem?_eq_none (Nat.le_of_not_lt hnew), List.getElem?_singleton]
    split <;> rfl

/-- What is reported waits behind what has waited before. -/
theorem waiting_move (hqueues : move.isForQueues = false) (hroom : cluster.HasRoom queue move) :
    (cluster.move move).waiting queue =
      cluster.waiting queue ++ heard queue (cluster.reports move) := by
  rw [waiting, waiting, getElem?_queues_move hqueues]
  rcases hroom with hnothing | ⟨present, hpresent, hreader, hroom⟩
  · rw [hnothing, List.append_nil, Option.map_map]
    rfl
  · simp only [hpresent, Option.map_some, Option.getD_some, EventQueue.emitAll_eq hreader hroom]

/-- What was taken by a move and what waits after it are what waited before and what was reported. -/
theorem taken_append_waiting (hroom : cluster.HasRoom queue move) (hstays : move ≠ .leave queue) :
    cluster.taken queue move ++ (cluster.move move).waiting queue =
      cluster.waiting queue ++ heard queue (cluster.reports move) := by
  cases move with
  | addQueue capacity =>
      have hquiet : cluster.reports (.addQueue capacity) = [] := reports_of_idle (fun _ _ => rfl) rfl
      rw [hquiet, Cluster.move, waiting_addQueue]
      exact (List.append_nil _).symm
  | read other count =>
      have hquiet : cluster.reports (.read other count) = [] := reports_of_idle (fun _ _ => rfl) rfl
      rw [hquiet, Cluster.move, waiting_modifyQueue, taken]
      by_cases hqueue : other = queue
      · rw [if_pos hqueue, waiting]
        cases cluster.queues[queue]? with
        | none => simp [heard]
        | some present => simp [heard, hqueue]
      · simp [hqueue, heard, waiting]
  | leave other =>
      have hquiet : cluster.reports (.leave other) = [] := reports_of_idle (fun _ _ => rfl) rfl
      have hother : other ≠ queue := fun hsame => hstays (by rw [hsame])
      rw [hquiet, Cluster.move, waiting_modifyQueue]
      simp [taken, hother, heard, waiting]
  | _ => exact waiting_move rfl hroom

/-- As long as a queue has room and its reader stays, the reader gets what is reported to the queue. -/
theorem received_append_waiting (cluster : Cluster) (queue : QueueId) (moves : List Move)
    (hroom : ∀ early move late, moves = early ++ move :: late →
      (cluster.play early).HasRoom queue move)
    (hstays : .leave queue ∉ moves) :
    cluster.received queue moves ++ (cluster.play moves).waiting queue =
      cluster.waiting queue ++ heard queue (cluster.history moves) := by
  induction moves generalizing cluster with
  | nil => simp [received, history, heard]
  | cons move rest ih =>
      rw [List.mem_cons, not_or] at hstays
      have hnow : cluster.HasRoom queue move := hroom [] move rest rfl
      have hfirst := taken_append_waiting hnow (Ne.symm hstays.1)
      have hrest := ih (cluster.move move)
        (fun early next late hsplit => hroom (move :: early) next late (by rw [hsplit]; rfl)) hstays.2
      calc cluster.received queue (move :: rest) ++ (cluster.play (move :: rest)).waiting queue
          = cluster.taken queue move ++ ((cluster.move move).received queue rest ++
              ((cluster.move move).play rest).waiting queue) := List.append_assoc _ _ _
        _ = cluster.taken queue move ++ (cluster.move move).waiting queue ++
              heard queue ((cluster.move move).history rest) := by
            rw [hrest, List.append_assoc]
        _ = cluster.waiting queue ++ heard queue (cluster.history (move :: rest)) := by
            rw [hfirst, List.append_assoc, history, heard_append]

/-- In every run, the last that a connection has reported is how it is: connected, disconnected or closed.
The exception is a connection whose node had its link down when it was dialled: as long as it has never
been connected or closed, its only report is the false one of the dial that it is connected. No other
report that a connection is connected is false. A queue that never overflows passes the reports on to its
reader as they are. -/
theorem reports_tell_state (moves : List Move) :
    (∀ id present, (play {} moves).connections[id]? = some present →
      ∃ early taker late, Origin moves id present early taker late ∧
        ((told id (history {} moves)).getLast? = some present.link.kind ∨
          taker.linkUp = false ∧ present.link = .disconnected ∧
            told id (history {} moves) = [.connected])) ∧
    (∀ early move late, moves = early ++ move :: late →
      ∀ report ∈ (play {} early).reports move, report.event.kind = .connected →
        (play {} (early ++ [move])).isConnected report.connection = true ∨
          ∃ addr queue node taker, move = .dial addr queue ∧
            (play {} early).Accepts addr node taker ∧ taker.linkUp = false) ∧
    (∀ queue, (∀ early move late, moves = early ++ move :: late →
        (play {} early).HasRoom queue move) → .leave queue ∉ moves →
      received {} queue moves ++ (play {} moves).waiting queue = heard queue (history {} moves)) := by
  refine ⟨exists_tellsState moves, ?_, ?_⟩
  · intro early move late _ report hreport hkind
    rw [play_concat]
    exact isConnected_of_report hreport hkind
  · exact fun queue hroom hstays => received_append_waiting {} queue moves hroom hstays

def downRun : List Move :=
  [.change (.addNode "127.0.0.1:3301" false), .addQueue 16, .change (.setLink 0 false),
    .dial "127.0.0.1:3301" 0]

theorem reports_tell_state_restored :
    (told 0 (history {} (downRun ++ [.change (.setLink 0 true)]))).getLast? = some .connected := by
  have hpresent : (play {} (downRun ++ [.change (.setLink 0 true)])).connections[0]? =
      some ⟨"127.0.0.1:3301", 0, 0, .connected, true⟩ := by
    decide +kernel
  obtain ⟨early, taker, late, -, hlast | ⟨-, hdown, -⟩⟩ :=
    (reports_tell_state (downRun ++ [.change (.setLink 0 true)])).1 0 _ hpresent
  · exact hlast
  · cases hdown

/-- The connection is not connected, and its only report, which waits in a queue with room, says that it
is. -/
theorem reports_tell_state_fails :
    (play {} downRun).connections[0]? = some ⟨"127.0.0.1:3301", 0, 0, .disconnected, true⟩ ∧
      told 0 (history {} downRun) = [.connected] ∧
      (play {} downRun).waiting 0 = [⟨"127.0.0.1:3301", .connected⟩] := by
  decide +kernel

end Cluster

end ReplicaPool
