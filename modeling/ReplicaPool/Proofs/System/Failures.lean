import ReplicaPool.Proofs.Places
import ReplicaPool.Proofs.Store.Lookup
import ReplicaPool.World.System

/-!
# Requests that fail leave no trace

A request fails by an error or by arithmetic that leaves the range of a word, and this may be in the middle
of a list of operations on a row. Either way the node is what it was. So the requests that fail can be taken
out of a run: it comes to the same system, and the other requests get the same replies.
-/

namespace ReplicaPool

variable {fields later first second : List Json} {operations : List Json} {failure : Failure Rejection}

/-! ### Operations on a row -/

/-- Operations fail as the first one does that fails on what those before it make of the row. -/
theorem updateRow_of_failing {operation : Json} (happlied : applyOperations fields first = .ok later)
    (hfailed : applyOperation later operation = .error failure) :
    updateRow (.array fields) (.array (first ++ operation :: second)) = .error failure := by
  simp only [updateRow]
  rw [applyOperations_eq_error_iff.mpr ⟨first, operation, second, later, rfl, happlied, hfailed⟩]
  rfl

/-! ### Requests -/

section Requests

variable {node : Node} {functions : Functions} {request : Request} {cluster : Cluster}
  {connection : ConnectionId} {cause : Failure ConnectionError}

theorem Node.handle_failed (hfailed : (node.handle functions request).2 = .error cause) :
    (node.handle functions request).1 = node := by
  unfold handle at hfailed ⊢
  split
  · rfl
  · rename_i hwritable
    rw [if_neg hwritable] at hfailed
    split
    · rename_i command hcommand
      rw [hcommand] at hfailed
      dsimp only at hfailed ⊢
      split
      · rename_i answer hanswer
        rw [hanswer] at hfailed
        cases hfailed
      · rename_i failure hanswer
        rw [Store.perform_failed hanswer]
    · split <;> rfl

theorem Cluster.execute_failed (hfailed : (cluster.execute connection request).2 = .error cause) :
    (cluster.execute connection request).1 = cluster := by
  unfold execute at hfailed ⊢
  split
  · rfl
  · rename_i present hpresent
    rw [hpresent] at hfailed
    dsimp only at hfailed
    split
    · rfl
    · rfl
    · rename_i hlink
      rw [hlink] at hfailed
      dsimp only at hfailed
      split
      · rfl
      · rename_i node hnode
        rw [hnode] at hfailed
        dsimp only at hfailed ⊢
        rw [Node.handle_failed hfailed, set_eq_of_getElem? hnode]

end Requests

namespace System

variable {system : System} {action : Action}

def reply? (system : System) : Action → Option (Except (Failure ConnectionError) (List Json))
  | .execute connection request => some (system.world.execute connection request).2
  | _ => none

def fails (system : System) (action : Action) : Bool :=
  match system.reply? action with
  | some (.error _) => true
  | _ => false

def replies (system : System) : List Action → List (Except (Failure ConnectionError) (List Json))
  | [] => []
  | action :: rest => (system.reply? action).toList ++ (system.act action).replies rest

def withoutFailures (system : System) : List Action → List Action
  | [] => []
  | action :: rest =>
      if system.fails action then system.withoutFailures rest
      else action :: (system.act action).withoutFailures rest

theorem reply?_of_fails (hfails : system.fails action = true) :
    ∃ cause, system.reply? action = some (.error cause) := by
  unfold fails at hfails
  split at hfails
  · rename_i cause hreply
    exact ⟨cause, hreply⟩
  · cases hfails

theorem act_of_fails (hfails : system.fails action = true) : system.act action = system := by
  obtain ⟨cause, hreply⟩ := reply?_of_fails hfails
  cases action with
  | execute connection request =>
      have hfailed : (system.world.cluster.execute connection request).2 = .error cause :=
        Option.some.inj hreply
      simp only [act, World.execute, Cluster.execute_failed hfailed]
  | _ => cases hreply

theorem run_withoutFailures (system : System) (actions : List Action) :
    system.run (system.withoutFailures actions) = system.run actions := by
  -- on the actions, for every system, since an action that stays changes it
  induction actions generalizing system with
  | nil => rfl
  | cons action rest ih =>
      rw [withoutFailures, run_cons]
      split
      · rename_i hfails
        rw [ih, act_of_fails hfails]
      · rw [run_cons, ih]

theorem filter_reply?_of_not_fails (hanswered : system.fails action = false) :
    (system.reply? action).toList.filter Except.isOk = (system.reply? action).toList := by
  unfold fails at hanswered
  cases hreply : system.reply? action with
  | none => rfl
  | some reply =>
      rw [hreply] at hanswered
      cases reply with
      | ok rows => rfl
      | error cause => cases hanswered

theorem replies_withoutFailures (system : System) (actions : List Action) :
    system.replies (system.withoutFailures actions) = (system.replies actions).filter Except.isOk := by
  induction actions generalizing system with
  | nil => rfl
  | cons action rest ih =>
      rw [withoutFailures, replies, List.filter_append]
      cases hfails : system.fails action with
      | true =>
          obtain ⟨cause, hreply⟩ := reply?_of_fails hfails
          rw [if_pos rfl, ih, act_of_fails hfails, hreply]
          rfl
      | false => rw [if_neg Bool.false_ne_true, replies, ih, filter_reply?_of_not_fails hfails]

/-- What fails changes nothing: a command to a store, operations on a row of which one fails behind others
that did not, a request to a node, and among these every write while the node is read-only. So a run comes
to the same system without its requests that fail, and gives the same replies to the others. -/
theorem failed_requests_leave_no_trace (commands : List Store.Command) (node : Node)
    (functions : Functions) (system : System) (actions : List Action) :
    (∀ command failure, ((Store.empty.run commands).perform command).2 = .error failure →
      ((Store.empty.run commands).perform command).1 = Store.empty.run commands) ∧
    (∀ space key part fields first operation second later failure, keyPart? key = some part →
      (Store.empty.run commands).row? (spaceName space) part = some (.array fields) →
      applyOperations fields first = .ok later → applyOperation later operation = .error failure →
        (Store.empty.run commands).perform (.update space key (.array (first ++ operation :: second))) =
          (Store.empty.run commands, .error failure)) ∧
    (∀ request cause, (node.handle functions request).2 = .error cause →
      (node.handle functions request).1 = node) ∧
    (∀ request, request.isWrite = true → node.readOnly = true →
      node.handle functions request = (node, .error (.error Node.readOnlyError))) ∧
    system.run (system.withoutFailures actions) = system.run actions ∧
    system.replies (system.withoutFailures actions) = (system.replies actions).filter Except.isOk := by
  refine ⟨fun command failure => Store.perform_failed, ?_, fun request cause => Node.handle_failed, ?_,
    system.run_withoutFailures actions, system.replies_withoutFailures actions⟩
  · intro space key part fields first operation second later failure hpart hrow happlied hfailed
    exact Store.perform_update_of_error (Store.keyed_run_empty commands _) hpart hrow
      (updateRow_of_failing happlied hfailed)
  · intro request hwrite hreadOnly
    rw [Node.handle, hwrite, hreadOnly]
    rfl

/-- An addition that overflows behind an assignment that does not. -/
theorem failed_requests_leave_no_trace_overflow :
    (Store.empty.run [.insert (.string "test")
        (.array [.string "k", .integer 9223372036854775807])]).perform
      (.update (.string "test") (.string "k") (.array [.array [.string "=", .integer 2, .string "x"],
        .array [.string "+", .integer 1, .integer 1]])) =
      (Store.empty.run [.insert (.string "test")
        (.array [.string "k", .integer 9223372036854775807])], .error (.crash .add)) :=
  (failed_requests_leave_no_trace _ default [] {} []).2.1 _ _ (.string "k") _
    [.array [.string "=", .integer 2, .string "x"]] _ [] _ _ rfl rfl rfl rfl

end System

end ReplicaPool
