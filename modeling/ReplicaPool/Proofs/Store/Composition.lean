import ReplicaPool.Proofs.Store.Upsert

/-!
# Operations in parts

A list of operations does what its parts do one after the other, down to the failure that is reported. For a
row this is the law of `applyOperations_append`. For a store it says that two updates are one, except that
the first of two has been written when the second fails. Rows keep their shape, as `Amended` says.
-/

namespace ReplicaPool

open Store (hasKey)

variable {row changed key part : Json} {fields early late : List Json}

theorem updateRow_append (fields early late : List Json) :
    updateRow (.array fields) (.array (early ++ late)) =
      (updateRow (.array fields) (.array early)).bind fun middle => updateRow middle (.array late) := by
  simp only [updateRow, applyOperations_append]
  cases applyOperations fields early <;> rfl

/-- Operations act on a row one after the other and leave its primary key alone. -/
structure ActInTurn (key : Json) (fields : List Json) : Prop where
  compose : ∀ early late : List Json, updateRow (.array (key :: fields)) (.array (early ++ late)) =
    (updateRow (.array (key :: fields)) (.array early)).bind fun middle => updateRow middle (.array late)
  /-- The failure of a list is that of the first operation that fails, on what those before it have made. -/
  first_failure : ∀ {operations : List Json} {failure : Failure Rejection},
    updateRow (.array (key :: fields)) (.array operations) = .error failure →
      ∃ early operation late middle, operations = early ++ operation :: late ∧
        applyOperations (key :: fields) early = .ok middle ∧
        applyOperation middle operation = .error failure
  amended : ∀ {operations : List Json} {changed : Json},
    updateRow (.array (key :: fields)) (.array operations) = .ok changed →
      ∃ rest, changed = .array (key :: rest) ∧ Amended (key :: fields) operations (key :: rest)

theorem actInTurn (key : Json) (fields : List Json) : ActInTurn key fields where
  compose := updateRow_append _
  first_failure := by
    intro operations failure hfailed
    apply applyOperations_eq_error_iff.mp
    cases happlied : applyOperations (key :: fields) operations with
    | ok later =>
        rw [updateRow, happlied] at hfailed
        cases hfailed
    | error cause =>
        rw [updateRow, happlied] at hfailed
        cases hfailed
        rfl
  amended := by
    intro operations changed hupdate
    obtain ⟨_, _, later, ⟨⟩, ⟨⟩, rfl, happlied⟩ := exists_of_updateRow hupdate
    obtain ⟨rest, rfl⟩ := applyOperations_cons happlied
    exact ⟨rest, rfl, amended_of_applied happlied⟩

namespace Store

variable {store middle reached : Store} {space changes : Json} {name : String} {index : Nat} {answer : Answer}
  {failure : Failure Rejection}

/-! ### Rows that are written twice -/

theorem replaceSpace_replaceSpace (name : String) (rows later : List Json)
    (spaces : List (String × List Json)) :
    replaceSpace name later (replaceSpace name rows spaces) = replaceSpace name later spaces := by
  induction spaces with
  | nil => simp [replaceSpace]
  | cons first rest ih =>
      obtain ⟨other, present⟩ := first
      by_cases hsame : name = other
      · simp [replaceSpace, hsame]
      · simp [replaceSpace, hsame, ih]

@[simp]
theorem setRows_setRows (store : Store) (name : String) (rows later : List Json) :
    (store.setRows name rows).setRows name later = store.setRows name later := by
  simp only [setRows, replaceSpace_replaceSpace]

@[simp]
theorem rows_setRows_self (store : Store) (name : String) (rows : List Json) :
    (store.setRows name rows).rows name = rows := by
  rw [rows_setRows, if_pos rfl]

theorem exists_array_of_find? (hfound : store.find? name key = some (index, row)) :
    ∃ first fields, row = .array (first :: fields) := by
  obtain ⟨part, -, hrow, hkey⟩ := exists_of_find? hfound
  obtain ⟨first, hfirst, -⟩ := hasKey_iff.mp hkey
  obtain ⟨fields, hfields⟩ := exists_of_primaryKey? hfirst
  exact ⟨first, fields, hfields⟩

theorem find?_of_updateRow (hkeyed : Keyed (store.rows name))
    (hfound : store.find? name key = some (index, row)) (hupdate : updateRow row changes = .ok changed) :
    (store.setRows name ((store.rows name).set index changed)).find? name key = some (index, changed) := by
  obtain ⟨part, hpart, hrow, hkey⟩ := exists_of_find? hfound
  obtain ⟨present, hpresent, hsame⟩ := hasKey_iff.mp hkey
  have hchanged := primaryKey?_updateRow hpresent hupdate
  refine find?_of_hasKey ?_ hpart ?_ (hasKey_iff.mpr ⟨present, hchanged, hsame⟩)
  · rw [rows_setRows_self]
    exact hkeyed.put hrow hpresent hchanged Std.ReflCmp.compare_self
  · rw [rows_setRows_self, List.getElem?_set_self (List.getElem?_eq_some_iff.mp hrow).1]

/-- Two updates of a store are one, and updates leave the shape of a row alone. -/
structure UpdatesInTurn (store : Store) : Prop where
  /-- If the second update fails, then nothing of the first one is kept. -/
  compose : ∀ (space key : Json) (early late : List Json),
    store.perform (.update space key (.array (early ++ late))) =
      match store.perform (.update space key (.array early)) with
      | (middle, .ok _) =>
          match middle.perform (.update space key (.array late)) with
          | (later, .ok answer) => (later, .ok answer)
          | (_, .error failure) => (store, .error failure)
      | (_, .error failure) => (store, .error failure)
  amended : ∀ {space key changed : Json} {operations : List Json} {reached : Store},
    store.perform (.update space key (.array operations)) = (reached, .ok (.found (some changed))) →
      ∃ index first fields rest,
        store.find? (spaceName space) key = some (index, .array (first :: fields)) ∧
        changed = .array (first :: rest) ∧ Amended (first :: fields) operations (first :: rest) ∧
        reached = store.setRows (spaceName space) ((store.rows (spaceName space)).set index changed)

section Laws

variable (hkeyed : ∀ name, Keyed (store.rows name))
include hkeyed

theorem perform_update_append (space key : Json) (early late : List Json) :
    store.perform (.update space key (.array (early ++ late))) =
      match store.perform (.update space key (.array early)) with
      | (middle, .ok _) =>
          match middle.perform (.update space key (.array late)) with
          | (later, .ok answer) => (later, .ok answer)
          | (_, .error failure) => (store, .error failure)
      | (_, .error failure) => (store, .error failure) := by
  rw [perform_update, perform_update]
  cases hfound : store.find? (spaceName space) key with
  | none => simp only [perform_update, hfound]
  | some found =>
      obtain ⟨index, row⟩ := found
      obtain ⟨first, fields, rfl⟩ := exists_array_of_find? hfound
      simp only [updateRow_append]
      cases hearly : updateRow (.array (first :: fields)) (.array early) with
      | error failure => rfl
      | ok changed =>
          simp only [Except.bind, perform_update, find?_of_updateRow (hkeyed _) hfound hearly]
          cases updateRow changed (.array late) with
          | error failure => rfl
          | ok later => simp

theorem updatesInTurn : store.UpdatesInTurn where
  compose := perform_update_append hkeyed
  amended := by
    intro space key changed operations reached hperform
    obtain ⟨index, row, hfound, hupdate, rfl⟩ := exists_of_perform_update hperform
    obtain ⟨first, fields, rfl⟩ := exists_array_of_find? hfound
    obtain ⟨rest, hchanged, hamended⟩ := (actInTurn first fields).amended hupdate
    exact ⟨index, first, fields, rest, hfound, hchanged, hamended, rfl⟩

end Laws

/-- Operations on any row, and updates of whatever store commands have led to, compose, fail as the first
failing operation does, and keep the primary key and every field that they do not name. -/
theorem operations_compose (commands : List Command) :
    (∀ (key : Json) (fields : List Json), ActInTurn key fields) ∧ (empty.run commands).UpdatesInTurn :=
  ⟨actInTurn, updatesInTurn (keyed_run_empty commands)⟩

end Store

end ReplicaPool
