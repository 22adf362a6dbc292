import ReplicaPool.Cluster.Node
import ReplicaPool.Proofs.Store.Uniqueness

/-!
# What a node answers

A node answers with rows or with a server error, and it changes nothing but its data. The only other way in
which a request ends is in the middle of an update or an upsert, when the operations on a row overflow.
-/

namespace ReplicaPool

namespace Store

variable {α β : Type} {store : Store} {space key tuple operations : Json} {overflow : Overflow}

def Command.operations? : Command → Option (Json × Json)
  | .update space _ operations => some (space, operations)
  | .upsert space _ operations => some (space, operations)
  | _ => none

def Overflows (store : Store) (space operations : Json) (overflow : Overflow) : Prop :=
  ∃ row ∈ store.rows (spaceName space), updateRow row operations = .error (.crash overflow)

def Edit.CrashesOn (edit : Edit α) (causes : Store → Overflow → Prop) : Prop :=
  ∀ store overflow later, edit.run store = .error (.crash overflow) later → causes store overflow

theorem Edit.CrashesOn.map {edit : Edit α} {causes : Store → Overflow → Prop}
    (hcrashes : edit.CrashesOn causes) (report : α → β) : CrashesOn (report <$> edit) causes := by
  intro store overflow later hrun
  rw [run_map] at hrun
  split at hrun
  · cases hrun
  · rename_i hfailed
    cases hrun
    exact hcrashes store overflow later hfailed

theorem crashesOn_insert (space tuple : Json) :
    (Edit.insert space tuple).CrashesOn fun _ _ => False := by
  intro store overflow later hrun
  rw [Edit.run_insert] at hrun
  split at hrun
  · cases hrun
  · split at hrun <;> cases hrun

theorem crashesOn_replace (space tuple : Json) :
    (Edit.replace space tuple).CrashesOn fun _ _ => False := by
  intro store overflow later hrun
  rw [Edit.run_replace] at hrun
  split at hrun
  · cases hrun
  · split at hrun <;> cases hrun

theorem crashesOn_delete (space key : Json) : (Edit.delete space key).CrashesOn fun _ _ => False := by
  intro store overflow later hrun
  rw [Edit.run_delete] at hrun
  split at hrun <;> cases hrun

theorem crashesOn_update (space key operations : Json) :
    (Edit.update space key operations).CrashesOn fun store overflow =>
      store.Overflows space operations overflow := by
  intro store overflow later hrun
  rw [Edit.run_update] at hrun
  split at hrun
  · rename_i index row hfound
    split at hrun
    · cases hrun
    · rename_i failure hupdate
      cases hrun
      obtain ⟨part, -, hrow, -⟩ := exists_of_find? hfound
      exact ⟨row, List.mem_of_getElem? hrow, hupdate⟩
  · cases hrun

theorem crashesOn_upsert (space tuple operations : Json) :
    (Edit.upsert space tuple operations).CrashesOn fun store overflow =>
      store.Overflows space operations overflow := by
  intro store overflow later hrun
  rw [Edit.run_upsert] at hrun
  split at hrun
  · cases hrun
  · split at hrun
    · cases hrun
    · exact ((crashesOn_insert space tuple).map _ _ _ _ hrun).elim
    · rename_i hfailed
      cases hrun
      exact crashesOn_update space _ operations _ _ _ hfailed

theorem exists_overflow_of_perform {command : Command}
    (hcrash : (store.perform command).2 = .error (.crash overflow)) :
    ∃ space operations, command.operations? = some (space, operations) ∧
      store.Overflows space operations overflow := by
  obtain ⟨later, hrun⟩ : ∃ later, command.edit.run store = .error (.crash overflow) later := by
    unfold perform at hcrash
    split at hcrash
    · cases hcrash
    · rename_i hfailed
      cases hcrash
      exact ⟨_, hfailed⟩
  cases command with
  | select space key offset limit iterator => cases hrun
  | insert space tuple => exact ((crashesOn_insert space tuple).map _ _ _ _ hrun).elim
  | replace space tuple => exact ((crashesOn_replace space tuple).map _ _ _ _ hrun).elim
  | delete space key => exact ((crashesOn_delete space key).map _ _ _ _ hrun).elim
  | update space key operations =>
      exact ⟨space, operations, rfl, (crashesOn_update space key operations).map _ _ _ _ hrun⟩
  | upsert space tuple operations =>
      exact ⟨space, operations, rfl, (crashesOn_upsert space tuple operations).map _ _ _ _ hrun⟩

end Store

namespace Node

variable {node : Node} {functions : Functions} {request : Request}

theorem exists_store_handle (node : Node) (functions : Functions) (request : Request) :
    ∃ store, (node.handle functions request).1 = { node with store } := by
  unfold handle
  split
  · exact ⟨node.store, rfl⟩
  · split
    · rename_i command hcommand
      rcases node.store.perform command with ⟨store, failure | answer⟩
      · exact ⟨store, rfl⟩
      · exact ⟨store, rfl⟩
    · cases node.answer functions request <;> exact ⟨node.store, rfl⟩

theorem exists_server_of_call {function : String} {cause : ConnectionError}
    (hcall : node.call functions function = .error cause) :
    ∃ code reason, cause = .server code reason := by
  unfold call at hcall
  split at hcall
  · cases hcall
  · split at hcall
    · cases hcall
    · cases hcall
      exact ⟨_, _, rfl⟩

theorem exists_server_of_eval {expression : String} {cause : ConnectionError}
    (heval : node.eval expression = .error cause) : ∃ code reason, cause = .server code reason := by
  unfold eval at heval
  split at heval
  · cases heval
  · cases heval
  · cases heval
  · cases heval
  · cases heval
    exact ⟨_, _, rfl⟩

theorem exists_server_of_answer {cause : ConnectionError}
    (hanswer : node.answer functions request = .error cause) :
    ∃ code reason, cause = .server code reason := by
  cases request with
  | call function arguments =>
      rw [answer] at hanswer
      cases hcall : node.call functions function with
      | error failure =>
          rw [hcall] at hanswer
          cases hanswer
          exact exists_server_of_call hcall
      | ok rows =>
          rw [hcall] at hanswer
          cases hanswer
  | call17 function arguments => exact exists_server_of_call hanswer
  | eval expression arguments => exact exists_server_of_eval hanswer
  | _ => cases hanswer

/-- How a node answers: with rows, with a server error, or not at all when operations overflow. -/
inductive Answers (node : Node) (request : Request) :
    Except (Failure ConnectionError) (List Json) → Prop
  | rows (rows : List Json) : Answers node request (.ok rows)
  | server (code : Nat) (reason : String) :
      Answers node request (.error (.error (.server code reason)))
  | crash {command : Store.Command} {space operations : Json} {overflow : Overflow}
      (hcommand : storeCommand? request = some command)
      (hoperations : command.operations? = some (space, operations))
      (hoverflow : node.store.Overflows space operations overflow) :
      Answers node request (.error (.crash overflow))

theorem answers_handle (node : Node) (functions : Functions) (request : Request) :
    node.Answers request (node.handle functions request).2 := by
  unfold handle
  split
  · exact .server _ _
  · split
    · rename_i command hcommand
      rcases hperform : node.store.perform command with ⟨store, (reason | overflow) | answer⟩
      · exact .server _ _
      · obtain ⟨space, operations, hoperations, hoverflow⟩ :=
          Store.exists_overflow_of_perform (congrArg Prod.snd hperform)
        exact .crash hcommand hoperations hoverflow
      · exact .rows _
    · cases hanswer : node.answer functions request with
      | ok rows => exact .rows rows
      | error cause =>
          obtain ⟨code, reason, rfl⟩ := exists_server_of_answer hanswer
          exact .server code reason

end Node

end ReplicaPool
