import ReplicaPool.Store.Edit

/-!
# What edits come to

An edit writes to the store in place, so it could fail half done. None does: `Edit.Atomic` says that a store
is unchanged when an edit of it fails. So all that there is to know of an edit is its failure, or else the
later store and the answer.
-/

namespace ReplicaPool

namespace Store

variable {α β : Type} {store later : Store} {space tuple key operations : Json}
  {failure : Failure Rejection}

namespace Edit

/-- An edit that fails has written nothing. -/
def Atomic (edit : Edit α) : Prop :=
  ∀ store failure later, edit.run store = .error failure later → later = store

/-! ### Runs of edits -/

theorem run_primaryKey (store : Store) (tuple : Json) : (primaryKey tuple).run store =
    match primaryKey? tuple with
    | some key => .ok key store
    | none => .error (.error .notATuple) store := by
  unfold primaryKey
  cases primaryKey? tuple <;> rfl

theorem run_insert (store : Store) (space tuple : Json) : (insert space tuple).run store =
    match primaryKey? tuple with
    | none => .error (.error .notATuple) store
    | some key =>
        match store.position? (spaceName space) key with
        | some _ => .error (.error (.duplicateKey (spaceName space))) store
        | none => .ok tuple
            (store.setRows (spaceName space) (store.rows (spaceName space) ++ [tuple])) := by
  simp only [insert, EStateM.run_bind, run_primaryKey]
  cases primaryKey? tuple with
  | none => rfl
  | some key =>
      simp only [EStateM.run_get]
      cases store.position? (spaceName space) key <;> rfl

theorem run_replace (store : Store) (space tuple : Json) : (replace space tuple).run store =
    match primaryKey? tuple with
    | none => .error (.error .notATuple) store
    | some key =>
        match store.position? (spaceName space) key with
        | some index => .ok tuple
            (store.setRows (spaceName space) ((store.rows (spaceName space)).set index tuple))
        | none => .ok tuple
            (store.setRows (spaceName space) (store.rows (spaceName space) ++ [tuple])) := by
  simp only [replace, EStateM.run_bind, run_primaryKey]
  cases primaryKey? tuple with
  | none => rfl
  | some key =>
      simp only [EStateM.run_get]
      cases store.position? (spaceName space) key <;> rfl

theorem run_delete (store : Store) (space key : Json) : (delete space key).run store =
    match store.find? (spaceName space) key with
    | some (index, row) => .ok (some row)
        (store.setRows (spaceName space) ((store.rows (spaceName space)).eraseIdx index))
    | none => .ok none store := by
  simp only [delete, EStateM.run_bind, EStateM.run_get]
  cases store.find? (spaceName space) key <;> rfl

theorem run_update (store : Store) (space key operations : Json) :
    (update space key operations).run store =
      match store.find? (spaceName space) key with
      | some (index, row) =>
          match updateRow row operations with
          | .ok changed => .ok (some changed)
              (store.setRows (spaceName space) ((store.rows (spaceName space)).set index changed))
          | .error failure => .error failure store
      | none => .ok none store := by
  simp only [update, EStateM.run_bind, EStateM.run_get]
  cases store.find? (spaceName space) key with
  | none => rfl
  | some found =>
      simp only [EStateM.run_bind]
      cases updateRow found.2 operations <;> rfl

theorem run_upsert (store : Store) (space tuple operations : Json) :
    (upsert space tuple operations).run store =
      match primaryKey? tuple with
      | none => .error (.error .notATuple) store
      | some key =>
          match (update space key operations).run store with
          | .ok (some _) later => .ok () later
          | .ok none later => (Function.const Json () <$> insert space tuple).run later
          | .error failure later => .error failure later := by
  simp only [upsert, EStateM.run_bind, run_primaryKey]
  cases primaryKey? tuple with
  | none => rfl
  | some key =>
      dsimp only
      cases (update space key operations).run store with
      | ok changed later => cases changed <;> rfl
      | error failure later => rfl

theorem run_map (store : Store) (edit : Edit α) (report : α → β) : (report <$> edit).run store =
    match edit.run store with
    | .ok answer later => .ok (report answer) later
    | .error failure later => .error failure later := by
  simp only [Functor.map, EStateM.run, EStateM.map]
  cases edit store <;> rfl

theorem exists_of_run_map {edit : Edit α} {report : α → β} {result : β}
    (hrun : (report <$> edit).run store = .ok result later) :
    ∃ answer, edit.run store = .ok answer later ∧ report answer = result := by
  rw [run_map] at hrun
  split at hrun
  · rename_i answer reached hedit
    cases hrun
    exact ⟨answer, hedit, rfl⟩
  · cases hrun

/-! ### Edits that fail -/

theorem atomic_insert (space tuple : Json) : Atomic (insert space tuple) := by
  intro store failure later hrun
  rw [run_insert] at hrun
  split at hrun
  · cases hrun
    rfl
  · split at hrun
    · cases hrun
      rfl
    · cases hrun

theorem atomic_replace (space tuple : Json) : Atomic (replace space tuple) := by
  intro store failure later hrun
  rw [run_replace] at hrun
  split at hrun
  · cases hrun
    rfl
  · split at hrun <;> cases hrun

theorem atomic_delete (space key : Json) : Atomic (delete space key) := by
  intro store failure later hrun
  rw [run_delete] at hrun
  split at hrun <;> cases hrun

theorem atomic_update (space key operations : Json) : Atomic (update space key operations) := by
  intro store failure later hrun
  rw [run_update] at hrun
  split at hrun
  · split at hrun
    · cases hrun
    · cases hrun
      rfl
  · cases hrun

/-- An update that finds no row writes nothing either, so that an insert may follow. -/
theorem run_update_eq_none (hrun : (update space key operations).run store = .ok none later) :
    later = store := by
  rw [run_update] at hrun
  split at hrun
  · split at hrun <;> cases hrun
  · cases hrun
    rfl

theorem Atomic.map {edit : Edit α} (hatomic : edit.Atomic) (report : α → β) :
    Atomic (report <$> edit) := by
  intro store failure later hrun
  rw [run_map] at hrun
  split at hrun
  · cases hrun
  · rename_i hfailed
    cases hrun
    exact hatomic store failure later hfailed

theorem atomic_upsert (space tuple operations : Json) : Atomic (upsert space tuple operations) := by
  intro store failure later hrun
  rw [run_upsert] at hrun
  split at hrun
  · cases hrun
    rfl
  · split at hrun
    · cases hrun
    -- the insert starts from the store that the update has left
    · rename_i hnone
      obtain rfl := run_update_eq_none hnone
      exact (atomic_insert space tuple).map _ _ _ _ hrun
    · rename_i hfailed
      cases hrun
      exact atomic_update space _ operations _ _ _ hfailed

end Edit

theorem atomic_edit (command : Command) : command.edit.Atomic := by
  cases command with
  | select space key offset limit iterator => nofun
  | insert space tuple => exact (Edit.atomic_insert space tuple).map _
  | replace space tuple => exact (Edit.atomic_replace space tuple).map _
  | delete space key => exact (Edit.atomic_delete space key).map _
  | update space key operations => exact (Edit.atomic_update space key operations).map _
  | upsert space tuple operations => exact (Edit.atomic_upsert space tuple operations).map _

/-- A command that fails leaves the store as it was. -/
theorem perform_failed {command : Command} (hfailed : (store.perform command).2 = .error failure) :
    (store.perform command).1 = store := by
  unfold perform at hfailed ⊢
  cases hrun : command.edit.run store with
  | ok answer later =>
      rw [hrun] at hfailed
      cases hfailed
  | error failure later => exact atomic_edit command _ _ _ hrun

theorem perform_update (store : Store) (space key operations : Json) :
    store.perform (.update space key operations) =
      match store.find? (spaceName space) key with
      | some (index, row) =>
          match updateRow row operations with
          | .ok changed =>
              (store.setRows (spaceName space) ((store.rows (spaceName space)).set index changed),
                .ok (.found (some changed)))
          | .error failure => (store, .error failure)
      | none => (store, .ok (.found none)) := by
  simp only [perform, Command.edit, Edit.run_map, Edit.run_update]
  cases store.find? (spaceName space) key with
  | none => rfl
  | some found =>
      dsimp only
      cases updateRow found.2 operations <;> rfl

/-- What an update that returns a row has done. -/
theorem exists_of_perform_update {changed : Json}
    (hperform : store.perform (.update space key operations) = (later, .ok (.found (some changed)))) :
    ∃ index row, store.find? (spaceName space) key = some (index, row) ∧
      updateRow row operations = .ok changed ∧
      later = store.setRows (spaceName space) ((store.rows (spaceName space)).set index changed) := by
  rw [perform_update] at hperform
  split at hperform
  · rename_i index row hfound
    split at hperform
    · rename_i written hupdate
      cases hperform
      exact ⟨index, row, hfound, hupdate, rfl⟩
    · cases hperform
  · cases hperform

end Store

end ReplicaPool
