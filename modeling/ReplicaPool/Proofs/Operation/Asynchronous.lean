import ReplicaPool.Proofs.Operation.Routing

/-!
# Operations that are awaited later

An operation that is issued is routed by a task of its own. The task has its turn after the upkeep that
waits, so that issued operations do what plain ones would do one after the other from there. In between
the pool may have changed: a routing error can differ from the one at the time of the call.
-/

namespace ReplicaPool

namespace World

variable {world : World} {service : ServiceId} {operation : Operation} {operations : List Operation}

def requestEach (world : World) (service : ServiceId) :
    List Operation → World × List (Except (Failure PoolError) (List Json))
  | [] => (world, [])
  | operation :: rest =>
      let (world, outcome) := world.request service operation
      let (world, others) := world.requestEach service rest
      (world, outcome :: others)

def numbered (place : Nat) (outcomes : List (Except (Failure PoolError) (List Json))) :
    List (Nat × Except PoolError (List Json)) :=
  (List.range' place outcomes.length).zip
    (outcomes.map fun outcome => outcome.mapError Failure.collapse)

theorem numbered_cons (place : Nat) (outcome : Except (Failure PoolError) (List Json))
    (outcomes : List (Except (Failure PoolError) (List Json))) :
    numbered place (outcome :: outcomes) =
      (place, outcome.mapError Failure.collapse) :: numbered (place + 1) outcomes := rfl

theorem map_snd_numbered (place : Nat)
    (outcomes : List (Except (Failure PoolError) (List Json))) :
    (numbered place outcomes).map Prod.snd =
      outcomes.map fun outcome => outcome.mapError Failure.collapse :=
  List.map_snd_zip (by simp)

theorem sorted_numbered (place : Nat)
    (outcomes : List (Except (Failure PoolError) (List Json))) :
    (numbered place outcomes).Pairwise fun first second => decide (first.1 ≤ second.1) = true := by
  have hplaces : (numbered place outcomes).map Prod.fst = List.range' place outcomes.length :=
    List.map_fst_zip (by simp)
  have hsorted : (List.range' place outcomes.length).Pairwise
      fun first second => decide (first ≤ second) = true :=
    List.pairwise_le_range'.imp fun hle => decide_eq_true hle
  rw [← hplaces, List.pairwise_map] at hsorted
  exact hsorted

theorem route_of_plain (hplain : operation.request.isIntrospection = false) (place : Nat)
    (issued : Issued) :
    world.route service place operation issued =
      ((world.request service operation).1,
        { issued with answered := issued.answered ++
            [(place, (world.request service operation).2.mapError Failure.collapse)] }) := by
  cases hmode : operation.mode with
  | error cause => simp [route, request, hmode, Except.mapError, Failure.collapse]
  | ok mode =>
      rcases hresolve : world.resolve service mode with ⟨cause | connection, moved⟩
      · rw [request_of_error hmode hresolve]
        simp [route, hmode, hresolve, Except.mapError, Failure.collapse]
      · rw [request_of_ok hmode hresolve, mapError_collapse_toPool]
        simp [route, hmode, hresolve, send, scriptFor, hplain, await]

/-- The answers come in the order of the operations, after those that are there already. -/
theorem routeAll_of_plain
    (hplain : ∀ operation ∈ operations, operation.request.isIntrospection = false) :
    ∀ (world : World) (place : Nat) (issued : Issued),
      world.routeAll service place operations issued =
        ((world.requestEach service operations).1,
          { issued with answered :=
              issued.answered ++ numbered place (world.requestEach service operations).2 }) := by
  induction operations with
  | nil =>
      intro world place issued
      simp [routeAll, requestEach, numbered]
  | cons operation rest ih =>
      intro world place issued
      have hrest := ih (fun other hmem => hplain other (List.mem_cons_of_mem _ hmem))
        (world.request service operation).1 (place + 1)
      rw [routeAll, route_of_plain (hplain operation List.mem_cons_self) place issued]
      simp only [hrest, requestEach, numbered_cons, List.append_assoc, List.singleton_append]

/-- Operations that are answered while they are routed leave nothing to wait for. -/
theorem answerAll_of_routeAll {moved : World}
    {outcomes : List (Except (Failure PoolError) (List Json))}
    (hrouted : world.routeAll service 0 operations {} =
      (moved, { answered := numbered 0 outcomes })) :
    world.answerAll service operations =
      (moved, outcomes.map fun outcome => outcome.mapError Failure.collapse) := by
  simp only [answerAll, hrouted, List.mergeSort_nil, answerPending,
    List.mergeSort_of_pairwise (sorted_numbered 0 _), map_snd_numbered]

theorem answerAll_of_plain
    (hplain : ∀ operation ∈ operations, operation.request.isIntrospection = false) :
    world.answerAll service operations =
      ((world.requestEach service operations).1,
        (world.requestEach service operations).2.map fun outcome =>
          outcome.mapError Failure.collapse) :=
  answerAll_of_routeAll (routeAll_of_plain hplain world 0 {})

/-- An issued operation does what a plain one does once the upkeep that waits has gone first; only a
complaint about its modes is there at once. Several of them, other than introspection, take effect one
after the other. -/
theorem issued_in_turn (world : World) (service : ServiceId) :
    (∀ operation cause, operation.mode = .error cause →
      world.requestAll service [operation] = (world, [.error cause])) ∧
    (∀ operation mode, operation.mode = .ok mode →
      world.requestAll service [operation] =
        ((world.settle.request service operation).1,
          [(world.settle.request service operation).2.mapError Failure.collapse])) ∧
    ∀ operations, (∀ operation ∈ operations, operation.request.isIntrospection = false) →
      world.requestAll service operations =
        (((world.turn operations).requestEach service operations).1,
          ((world.turn operations).requestEach service operations).2.map fun outcome =>
            outcome.mapError Failure.collapse) :=
  ⟨fun _ _ => requestAll_of_usage, fun _ _ => requestAll_singleton, fun _ => answerAll_of_plain⟩

def stoppedRun : List Action :=
  System.soloRun ++ [.change (.stop 0)]

def whoListens : Operation :=
  { default := .rw, request := .eval "return box.cfg.listen" (.array []) }

theorem request_whoListens_stopped :
    (System.run {} stoppedRun).world.settle.request 0 whoListens =
      ((System.run {} stoppedRun).world.settle, .error (.error .noRwInstance)) := by
  have hsettled : (System.run {} stoppedRun).world.settle.services[0]?.map (fun present =>
      (present.pool.isClosed, present.pool.topology.target? .rw)) = some (false, none) := by
    decide +kernel
  obtain ⟨present, hpresent, hvalues⟩ := Option.map_eq_some_iff.mp hsettled
  obtain ⟨hopen, htarget⟩ := Prod.mk.inj hvalues
  exact request_of_unserved rfl hpresent hopen htarget

theorem issued_in_turn_stopped :
    ((System.run {} stoppedRun).world.requestAll 0 [whoListens, whoListens]).2 =
      [.error .noRwInstance, .error .noRwInstance] := by
  have hplain : ∀ operation ∈ [whoListens, whoListens],
      operation.request.isIntrospection = false := by
    decide
  have hturn : (System.run {} stoppedRun).world.turn [whoListens, whoListens] =
      (System.run {} stoppedRun).world.settle := rfl
  rw [(issued_in_turn (System.run {} stoppedRun).world 0).2.2 _ hplain, hturn]
  simp only [requestEach, request_whoListens_stopped]
  rfl

/-- The close report of the only master waits when the operation is called. A plain operation finds that
nobody is alive; the issued one has its turn after the master was evicted. -/
theorem issued_differs_from_called :
    ((System.run {} stoppedRun).world.request 0 whoListens).2 =
        .error (.error (.noAliveInstance .master)) ∧
      ((System.run {} stoppedRun).world.requestAll 0 [whoListens]).2 = [.error .noRwInstance] := by
  have hmode : whoListens.mode = .ok .rw := rfl
  refine ⟨rfl, ?_⟩
  rw [requestAll_singleton hmode, request_whoListens_stopped]
  rfl

end World

end ReplicaPool
