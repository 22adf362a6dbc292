import ReplicaPool.Proofs.Cluster.Reports
import ReplicaPool.Proofs.Places

/-!
# Passages of links

In a run a link passes from one state to another at certain moves and rests at all others.
`Link.announces` says which events belong to a passage. What a connection reports after it was dialled is
what its passages announce, one after the other: it says that it is closed once, when it is closed, and
nothing after that.
-/

namespace ReplicaPool

/-- The events that belong to the passage of a link from one state to another. That a connected link is
closed by the other side shows in an event more. -/
def Link.announces (stopped : Bool) : Link → Link → List EventKind
  | .connected, .disconnected => [.disconnected]
  | .disconnected, .connected => [.connected]
  | .connected, .closed => if stopped then [.disconnected, .closed] else [.closed]
  | .disconnected, .closed => [.closed]
  | _, _ => []

def Move.isStop : Move → Bool
  | .change (.stop _) => true
  | _ => false

def Cluster.announced (cluster : Cluster) (id : ConnectionId) : List Move → List EventKind
  | [] => []
  | move :: rest =>
      (cluster.link id).announces move.isStop ((cluster.move move).link id) ++
        (cluster.move move).announced id rest

section Effects

variable {id : ConnectionId} {present : Connection} {move : Move}

theorem Link.announces_self (stopped : Bool) (link : Link) : link.announces stopped link = [] := by
  cases link <;> rfl

theorem Link.announces_closed_left (stopped : Bool) (link : Link) :
    Link.announces stopped .closed link = [] := by
  cases link <;> rfl

theorem Link.announces_terminate (link : Link) :
    link.terminate.2 = link.announces true link.terminate.1 := by
  cases link <;> rfl

theorem Link.announces_close (link : Link) : link.close.2 = link.announces false link.close.1 := by
  cases link <;> rfl

theorem Link.announces_setUp (up : Bool) (link : Link) :
    (link.setUp up).2 = link.announces false (link.setUp up).1 := by
  cases up <;> cases link <;> rfl

/-- A passage to the closed state ends with the only report of it, and no other passage has one. -/
theorem Link.count_announces (stopped : Bool) (link later : Link) :
    (link.announces stopped later).count .closed =
      if link ≠ .closed ∧ later = .closed then 1 else 0 := by
  cases stopped <;> cases link <;> cases later <;> rfl

theorem Link.getLast?_announces {link : Link} (hopen : link ≠ .closed) (stopped : Bool) :
    (link.announces stopped .closed).getLast? = some .closed := by
  cases stopped <;> cases link <;> first | rfl | exact absurd rfl hopen

/-- A move makes a connection report what belongs to the passage of its link. -/
theorem Move.effect_snd (move : Move) (id : ConnectionId) (present : Connection) :
    (move.effect id present).2 = present.link.announces move.isStop (move.effect id present).1 := by
  have hidle : ([] : List EventKind) = present.link.announces move.isStop present.link :=
    (Link.announces_self move.isStop present.link).symm
  unfold effect
  split
  · split
    · exact Link.announces_terminate present.link
    · exact hidle
  · split
    · exact Link.announces_setUp _ present.link
    · exact hidle
  · split
    · exact Link.announces_close present.link
    · exact hidle
  · exact hidle

/-- A link is closed from this side or by a stop of its node. -/
theorem Move.closes_of_effect (hopen : present.link ≠ .closed)
    (hclosed : (move.effect id present).1 = .closed) :
    move = .close id ∨ move = .change (.stop present.node) := by
  unfold effect at hclosed
  split at hclosed
  · rename_i node
    split at hclosed
    · rename_i hheld
      have hnode : present.node = node := by
        simpa using (Bool.and_eq_true_iff.mp hheld).2
      exact Or.inr (by rw [hnode])
    · exact absurd hclosed hopen
  · rename_i node up
    have hsetUp : (present.link.setUp up).1 ≠ .closed := by
      cases up <;> cases hlink : present.link <;> simp_all [Link.setUp]
    split at hclosed
    · exact absurd hclosed hsetUp
    · exact absurd hclosed hopen
  · rename_i connection
    split at hclosed
    · rename_i hid
      exact Or.inl (by rw [beq_iff_eq.mp hid])
    · exact absurd hclosed hopen
  · exact absurd hclosed hopen

end Effects

namespace Cluster

variable {cluster : Cluster} {moves early late more : List Move} {move : Move} {id : ConnectionId}
  {present : Connection} {taker : Node}

theorem link_move (hpresent : cluster.connections[id]? = some present) (move : Move) :
    (cluster.move move).link id = (move.effect id present).1 := by
  rw [link_eq (getElem?_move hpresent move), Move.onConnection]

theorem told_reports_eq_announces (hpresent : cluster.connections[id]? = some present)
    (move : Move) : told id (cluster.reports move) =
      (cluster.link id).announces move.isStop ((cluster.move move).link id) := by
  rw [told_reports_of_present hpresent, link_eq hpresent, link_move hpresent, Move.effect_snd]

theorem getElem?_dialled {addr : String} {queue : QueueId} {node : NodeId}
    (haccepts : (play {} early).Accepts addr node taker) :
    (play {} (early ++ [.dial addr queue])).connections[(play {} early).connections.length]? =
      some (fresh addr queue node taker) := by
  rw [play_concat, Cluster.move, dial_of_accepts haccepts, connections_deliver]
  exact List.getElem?_concat_length

/-- From the time that it is there, a connection tells what its passages announce. -/
theorem told_history_eq_announced (hpresent : cluster.connections[id]? = some present)
    (moves : List Move) : told id (cluster.history moves) = cluster.announced id moves := by
  induction moves generalizing cluster present with
  | nil => rfl
  | cons move rest ih =>
      rw [history, told_append, announced, told_reports_eq_announces hpresent,
        ih (getElem?_move hpresent move)]

theorem announced_of_closed (hpresent : cluster.connections[id]? = some present)
    (hclosed : present.link = .closed) (moves : List Move) : cluster.announced id moves = [] := by
  induction moves generalizing cluster present with
  | nil => rfl
  | cons move rest ih =>
      obtain ⟨later, hlater, hcontinues⟩ := (evolves_move cluster move).kept hpresent
      rw [announced, link_eq hpresent, hclosed, Link.announces_closed_left, List.nil_append]
      exact ih hlater (hcontinues.closed hclosed)

/-- Once a connection is closed, its reports end with that, and there is no other report of it. -/
theorem told_history_closed : ∀ (moves : List Move) (id : ConnectionId) (present : Connection),
    (play {} moves).connections[id]? = some present →
      (told id (history {} moves)).count .closed = (if present.link = .closed then 1 else 0) ∧
        (present.link = .closed → (told id (history {} moves)).getLast? = some .closed) := by
  apply connection_induct
  · intro early addr queue node taker haccepts
    have hopen : (fresh addr queue node taker).link ≠ .closed := by
      unfold fresh
      cases taker.linkUp <;> simp
    rw [history_concat, told_append, told_history_of_missing (Nat.le_refl _),
      told_reports_of_dial haccepts, if_neg hopen]
    exact ⟨rfl, fun hclosed => absurd hclosed hopen⟩
  · rintro moves move id present hpresent ⟨hcount, hlast⟩
    rw [history_concat, told_append, told_reports_eq_announces hpresent, link_eq hpresent,
      link_move hpresent, List.count_append, hcount, Link.count_announces, Move.onConnection]
    by_cases hclosed : present.link = .closed
    · have hstays : (move.effect id present).1 = .closed := by
        obtain ⟨later, hlater, hcontinues⟩ :=
          (evolves_move (play {} moves) move).kept hpresent
        rw [← link_move hpresent, link_eq hlater, hcontinues.closed hclosed]
      rw [hclosed, hstays, Link.announces_closed_left, List.append_nil]
      exact ⟨rfl, fun _ => hlast hclosed⟩
    · simp only [hclosed, if_false, ne_eq, not_false_eq_true, true_and, Nat.zero_add]
      intro hnow
      rw [hnow, List.getLast?_append, Link.getLast?_announces hclosed]
      rfl

/-- What a connection reports of a move stands together among all reports of the move. -/
theorem exists_reports_eq (hpresent : cluster.connections[id]? = some present) (move : Move) :
    ∃ before behind, cluster.reports move =
        before ++ present.reports id (move.effect id present).2 ++ behind ∧
      told id before = [] ∧ told id behind = [] := by
  have hplace : cluster.connections.zipIdx[id]? = some (present, id) := by
    simp [List.getElem?_zipIdx, hpresent]
  obtain ⟨before, behind, hreports⟩ : ∃ before behind, cluster.reports move =
      before ++ present.reports id (move.effect id present).2 ++ behind := by
    rw [reports, Move.reports, flatMap_eq_of_getElem? hplace]
    exact ⟨_, _, List.append_assoc _ _ _⟩
  refine ⟨before, behind, hreports, ?_⟩
  -- All that the connection tells is in the middle part, so nothing is left for the other two.
  have htold := told_reports_of_present hpresent move
  rw [hreports, told_append, told_append, told_reports, if_pos rfl] at htold
  have hlengths := congrArg List.length htold
  simp only [List.length_append] at hlengths
  exact ⟨List.length_eq_zero_iff.mp (by omega), List.length_eq_zero_iff.mp (by omega)⟩

theorem reports_of_isForQueues (hqueues : move.isForQueues = true) : cluster.reports move = [] := by
  cases move with
  | addQueue capacity => exact reports_of_idle (fun _ _ => rfl) rfl
  | read queue count => exact reports_of_idle (fun _ _ => rfl) rfl
  | leave queue => exact reports_of_idle (fun _ _ => rfl) rfl
  | _ => cases hqueues

/-- Every connection of a run tells that it was dialled and then what its passages announce, and before
that nothing. So it tells at most once that it is closed: at the move that closes it, which is a close of
the connection or a stop of its node, and nothing follows. Each move makes it report the passage of its
link, these events stand together among all reports, and they are what is offered to the queues. -/
theorem closed_reported_once (hpresent : (play {} moves).connections[id]? = some present) :
    (∃ early taker late, Origin moves id present early taker late ∧
        told id (history {} early) = [] ∧
        told id (history {} moves) = .connected ::
          (play {} (early ++ [.dial present.addr present.queue])).announced id late) ∧
      (told id (history {} moves)).count .closed = (if present.link = .closed then 1 else 0) ∧
      (present.link = .closed → (told id (history {} moves)).getLast? = some .closed ∧
        ∀ more, told id (history {} (moves ++ more)) = told id (history {} moves)) ∧
      ∀ move, ∃ later, (play {} (moves ++ [move])).connections[id]? = some later ∧
        (present.link ≠ .closed → later.link = .closed →
          move = .close id ∨ move = .change (.stop present.node)) ∧
        (∃ before behind, (play {} moves).reports move = before ++
            present.reports id (present.link.announces move.isStop later.link) ++ behind ∧
          told id before = [] ∧ told id behind = []) ∧
        (move.isForQueues = true → (play {} moves).reports move = []) ∧
        (move.isForQueues = false → ∀ queue : QueueId,
          (play {} (moves ++ [move])).queues[queue]? = ((play {} moves).queues[queue]?).map
            fun waiting => waiting.emitAll (heard queue ((play {} moves).reports move))) := by
  obtain ⟨hcount, hlast⟩ := told_history_closed moves id present hpresent
  refine ⟨?_, hcount, fun hclosed => ⟨hlast hclosed, fun more => ?_⟩, fun move => ?_⟩
  · obtain ⟨early, taker, late, horigin⟩ := exists_origin moves id present hpresent
    have hbefore : told id (history {} early) = [] :=
      told_history_of_missing (Nat.le_of_eq horigin.id_eq.symm)
    refine ⟨early, taker, late, horigin, hbefore, ?_⟩
    rw [horigin.moves_eq, List.append_cons, history_append, history_concat, told_append, told_append,
      hbefore, List.nil_append]
    rw [horigin.id_eq, told_reports_of_dial horigin.accepts]
    exact congrArg (.connected :: ·) (told_history_eq_announced (getElem?_dialled horigin.accepts) late)
  · rw [history_append, told_append, told_history_eq_announced hpresent,
      announced_of_closed hpresent hclosed, List.append_nil]
  · rw [play_concat]
    refine ⟨move.onConnection id present, getElem?_move hpresent move, ?_, ?_,
      reports_of_isForQueues, fun hqueues queue => getElem?_queues_move hqueues queue⟩
    · exact fun hopen hclosed => Move.closes_of_effect hopen hclosed
    · rw [Move.onConnection, ← Move.effect_snd]
      exact exists_reports_eq hpresent move

def flapRun : List Move :=
  [.change (.addNode "127.0.0.1:3301" false), .addQueue 16, .dial "127.0.0.1:3301" 0,
    .change (.setLink 0 false), .change (.setLink 0 true), .change (.stop 0), .close 0, .close 0]

theorem closed_reported_once_flap :
    (told 0 (history {} flapRun)).count .closed = 1 ∧
      (told 0 (history {} flapRun)).getLast? = some .closed ∧
      told 0 (history {} (flapRun ++ [.change (.start 0), .change (.stop 0)])) =
        told 0 (history {} flapRun) := by
  have hpresent : (play {} flapRun).connections[0]? =
      some ⟨"127.0.0.1:3301", 0, 0, .closed, true⟩ := by
    decide +kernel
  obtain ⟨-, hcount, hlast, -⟩ := closed_reported_once hpresent
  exact ⟨hcount, (hlast rfl).1, (hlast rfl).2 _⟩

end Cluster

end ReplicaPool
