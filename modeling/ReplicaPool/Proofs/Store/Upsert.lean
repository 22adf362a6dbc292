import ReplicaPool.Proofs.Store.Uniqueness

/-!
# Upserts

An upsert looks for the first field of its tuple as a search key. That is the primary key of the tuple,
unless it is an array, of which the first element is looked for, or null, for which nothing is found. So it
acts on the own key of its tuple, as `ActsOnKey` says, for every key but these.
-/

namespace ReplicaPool

open Store (hasKey)

variable {rows later operations fields : List Json} {row tuple key part value : Json} {name space : String}
  {index : Nat} {failure : Failure Rejection}

namespace Store

variable {store : Store}

/-! ### Looking for a row -/

/-- Of keyed rows, the row with a key is found by it. -/
theorem position?_of_hasKey (hkeyed : Keyed (store.rows name))
    (hrow : (store.rows name)[index]? = some row) (hkey : hasKey key row = true) :
    store.position? name key = some index := by
  cases hposition : store.position? name key with
  | none =>
      have hnobody := position?_eq_none_iff.mp hposition row (List.mem_of_getElem? hrow)
      rw [hkey] at hnobody
      cases hnobody
  | some place =>
      obtain ⟨other, hother, hotherKey⟩ := exists_of_position? hposition
      rw [hkeyed.place_unique hother hrow hotherKey hkey]

theorem find?_of_hasKey (hkeyed : Keyed (store.rows name)) (hpart : keyPart? key = some part)
    (hrow : (store.rows name)[index]? = some row) (hkey : hasKey part row = true) :
    store.find? name key = some (index, row) := by
  simp [find?, hpart, position?_of_hasKey hkeyed hrow hkey, hrow]

theorem find?_eq_none (hnobody : ∀ part, keyPart? key = some part →
    ∀ row ∈ store.rows name, hasKey part row = false) : store.find? name key = none := by
  cases hfound : store.find? name key with
  | none => rfl
  | some found =>
      obtain ⟨part, hpart, hrow, hkey⟩ := exists_of_find? hfound
      rw [hnobody part hpart _ (List.mem_of_getElem? hrow)] at hkey
      cases hkey

/-- A key that is neither an array nor null is looked for as it is. -/
theorem keyPart?_of_plain (harray : ∀ parts, key ≠ .array parts) (hnull : key ≠ .null) :
    keyPart? key = some key := by
  cases key with
  | array parts => exact absurd rfl (harray parts)
  | null => exact absurd rfl hnull
  | _ => rfl

/-! ### What an upsert does -/

section Upsert

variable {space operations : Json}

def upsert (store : Store) (space tuple operations : Json) : Except (Failure Rejection) Store :=
  match (Edit.upsert space tuple operations).run store with
  | .ok _ later => .ok later
  | .error failure _ => .error failure

theorem run_insert_array (store : Store) (space key : Json) (fields : List Json) :
    (Edit.insert space (.array (key :: fields))).run store =
      if (store.rows (spaceName space)).any (hasKey key) then
        .error (.error (.duplicateKey (spaceName space))) store
      else .ok (.array (key :: fields)) (store.setRows (spaceName space)
        (store.rows (spaceName space) ++ [.array (key :: fields)])) := by
  simp only [Edit.run_insert, primaryKey?]
  cases hposition : store.position? (spaceName space) key with
  | none =>
      have hnobody := position?_eq_none_iff.mp hposition
      rw [if_neg]
      simpa using hnobody
  | some index =>
      obtain ⟨row, hrow, hkey⟩ := exists_of_position? hposition
      rw [if_pos (List.any_eq_true.mpr ⟨row, List.mem_of_getElem? hrow, hkey⟩)]

theorem upsert_of_no_key (htuple : primaryKey? tuple = none) :
    store.upsert space tuple operations = .error (.error .notATuple) := by
  simp only [upsert, Edit.run_upsert, htuple]

theorem upsert_of_found {found : Nat × Json}
    (hfound : store.find? (spaceName space) key = some found) :
    store.upsert space (.array (key :: fields)) operations =
      (updateRow found.2 operations).map fun changed =>
        store.setRows (spaceName space) ((store.rows (spaceName space)).set found.1 changed) := by
  simp only [upsert, Edit.run_upsert, primaryKey?, Edit.run_update, hfound]
  cases updateRow found.2 operations <;> rfl

theorem upsert_of_not_found (hfound : store.find? (spaceName space) key = none) :
    store.upsert space (.array (key :: fields)) operations =
      if (store.rows (spaceName space)).any (hasKey key) then
        .error (.error (.duplicateKey (spaceName space)))
      else .ok (store.setRows (spaceName space)
        (store.rows (spaceName space) ++ [.array (key :: fields)])) := by
  simp only [upsert, Edit.run_upsert, primaryKey?, Edit.run_update, hfound, Edit.run_map]
  rw [run_insert_array]
  cases (store.rows (spaceName space)).any (hasKey key) <;> rfl

theorem perform_upsert (store : Store) (space tuple operations : Json) :
    store.perform (.upsert space tuple operations) =
      match store.upsert space tuple operations with
      | .ok later => (later, .ok .done)
      | .error failure => (store, .error failure) := by
  have hatomic := Edit.atomic_upsert space tuple operations store
  simp only [perform, Command.edit, EStateM.run_bind, upsert]
  cases hrun : (Edit.upsert space tuple operations).run store with
  | ok _ later => rfl
  | error failure later =>
      obtain rfl := hatomic failure later hrun
      rfl

/-! ### Rows that stay -/

theorem getElem?_rows_set {other changed : Json} {place : Nat} {changedName : String}
    (hother : (store.rows name)[place]? = some other) (helse : name = changedName → index ≠ place) :
    ((store.setRows changedName ((store.rows changedName).set index changed)).rows name)[place]? =
      some other := by
  rw [rows_setRows]
  split
  · rename_i hname
    rw [← hname, List.getElem?_set_ne (helse hname), hother]
  · exact hother

theorem getElem?_rows_append {other : Json} {place : Nat} (changedName : String)
    (hother : (store.rows name)[place]? = some other) :
    ((store.setRows changedName (store.rows changedName ++ [tuple])).rows name)[place]? =
      some other := by
  rw [rows_setRows]
  split
  · rename_i hname
    rw [← hname, List.getElem?_append_left (List.getElem?_eq_some_iff.mp hother).1, hother]
  · exact hother

/-! ### The own key of a tuple -/

/-- An upsert of a tuple acts on the primary key of the tuple: a row with that key is changed, or else the
tuple becomes a row. -/
structure ActsOnKey (store : Store) (space key : Json) (fields : List Json) (operations : Json) :
    Prop where
  /-- The operations are applied to the only row with the key. -/
  updates : ∀ {index : Nat} {row : Json}, (store.rows (spaceName space))[index]? = some row →
    hasKey key row = true →
      (∀ {place : Nat} {other : Json}, (store.rows (spaceName space))[place]? = some other →
        hasKey key other = true → place = index) ∧
      store.upsert space (.array (key :: fields)) operations =
        (updateRow row operations).map fun changed =>
          store.setRows (spaceName space) ((store.rows (spaceName space)).set index changed)
  /-- Without such a row the tuple is added. -/
  inserts : (∀ row ∈ store.rows (spaceName space), hasKey key row = false) →
    store.upsert space (.array (key :: fields)) operations =
      .ok (store.setRows (spaceName space)
        (store.rows (spaceName space) ++ [.array (key :: fields)]))
  /-- Rows with other keys and rows of other spaces stay where they are. -/
  others : ∀ {later : Store}, store.upsert space (.array (key :: fields)) operations = .ok later →
    ∀ {name : String} {place : Nat} {other : Json}, (store.rows name)[place]? = some other →
      name ≠ spaceName space ∨ hasKey key other = false → (later.rows name)[place]? = some other
  never_duplicate : ∀ name, store.upsert space (.array (key :: fields)) operations ≠
    .error (.error (.duplicateKey name))
  unchanged : ∀ {failure : Failure Rejection},
    (store.perform (.upsert space (.array (key :: fields)) operations)).2 = .error failure →
      (store.perform (.upsert space (.array (key :: fields)) operations)).1 = store

theorem actsOnKey_of_present (hkeyed : Keyed (store.rows (spaceName space)))
    (hplain : keyPart? key = some key) (hrow : (store.rows (spaceName space))[index]? = some row)
    (hkey : hasKey key row = true) : store.ActsOnKey space key fields operations := by
  have hupsert : store.upsert space (.array (key :: fields)) operations =
      (updateRow row operations).map fun changed =>
        store.setRows (spaceName space) ((store.rows (spaceName space)).set index changed) :=
    upsert_of_found (find?_of_hasKey hkeyed hplain hrow hkey)
  refine ⟨?_, ?_, ?_, ?_, perform_failed⟩
  · intro another twin htwin htwinKey
    obtain rfl := hkeyed.place_unique hrow htwin hkey htwinKey
    obtain rfl : row = twin := Option.some.inj (hrow.symm.trans htwin)
    exact ⟨fun hother hotherKey => hkeyed.place_unique hother hrow hotherKey hkey, hupsert⟩
  · intro hnobody
    rw [hnobody row (List.mem_of_getElem? hrow)] at hkey
    cases hkey
  · intro later hlater name place other hother helse
    rw [hupsert] at hlater
    cases hchanged : updateRow row operations with
    | error failure =>
        rw [hchanged] at hlater
        cases hlater
    | ok changed =>
        rw [hchanged] at hlater
        cases hlater
        apply getElem?_rows_set hother
        rintro rfl rfl
        rw [hrow] at hother
        cases hother
        rw [hkey] at helse
        exact helse.elim (fun hname => hname rfl) Bool.noConfusion
  · intro name hduplicate
    rw [hupsert] at hduplicate
    cases hchanged : updateRow row operations with
    | error failure =>
        rw [hchanged] at hduplicate
        cases hduplicate
        exact updateRow_ne_duplicate hchanged
    | ok changed =>
        rw [hchanged] at hduplicate
        cases hduplicate

theorem actsOnKey_of_absent (hplain : keyPart? key = some key)
    (hnobody : ∀ row ∈ store.rows (spaceName space), hasKey key row = false) :
    store.ActsOnKey space key fields operations := by
  have hfound : store.find? (spaceName space) key = none := find?_eq_none fun part hpart => by
    rw [hplain] at hpart
    cases hpart
    exact hnobody
  have hnew : ¬(store.rows (spaceName space)).any (hasKey key) = true := by simpa using hnobody
  have hupsert : store.upsert space (.array (key :: fields)) operations =
      .ok (store.setRows (spaceName space)
        (store.rows (spaceName space) ++ [.array (key :: fields)])) := by
    rw [upsert_of_not_found hfound, if_neg hnew]
  refine ⟨?_, fun _ => hupsert, ?_, ?_, perform_failed⟩
  · intro index row hrow hkey
    rw [hnobody row (List.mem_of_getElem? hrow)] at hkey
    cases hkey
  · intro later hlater name place other hother _
    rw [hupsert] at hlater
    cases hlater
    exact getElem?_rows_append _ hother
  · intro name
    rw [hupsert]
    nofun

theorem actsOnKey_of_plain (hkeyed : Keyed (store.rows (spaceName space)))
    (hplain : keyPart? key = some key) : store.ActsOnKey space key fields operations := by
  cases hposition : store.position? (spaceName space) key with
  | none => exact actsOnKey_of_absent hplain (position?_eq_none_iff.mp hposition)
  | some index =>
      obtain ⟨row, hrow, hkey⟩ := exists_of_position? hposition
      exact actsOnKey_of_present hkeyed hplain hrow hkey

/-- In every store, an upsert acts on the primary key of its tuple if that is neither an array nor null. In
general it looks for the first field as a search key: the row that this finds is changed, whatever its
primary key is, and if there is none the tuple is inserted, unless its primary key is there already. -/
theorem upsert_by_search_key (commands : List Command) (space key operations : Json)
    (fields : List Json) :
    ((∀ parts, key ≠ .array parts) → key ≠ .null →
      (empty.run commands).ActsOnKey space key fields operations) ∧
    (∀ part index row, keyPart? key = some part →
      ((empty.run commands).rows (spaceName space))[index]? = some row → hasKey part row = true →
        (empty.run commands).upsert space (.array (key :: fields)) operations =
          (updateRow row operations).map fun changed => (empty.run commands).setRows (spaceName space)
            (((empty.run commands).rows (spaceName space)).set index changed)) ∧
    ((∀ part, keyPart? key = some part →
      ∀ row ∈ (empty.run commands).rows (spaceName space), hasKey part row = false) →
        (empty.run commands).upsert space (.array (key :: fields)) operations =
          if ((empty.run commands).rows (spaceName space)).any (hasKey key) then
            .error (.error (.duplicateKey (spaceName space)))
          else .ok ((empty.run commands).setRows (spaceName space)
            ((empty.run commands).rows (spaceName space) ++ [.array (key :: fields)]))) := by
  have hkeyed := keyed_run_empty commands (spaceName space)
  refine ⟨?_, ?_, ?_⟩
  · intro harray hnull
    exact actsOnKey_of_plain hkeyed (keyPart?_of_plain harray hnull)
  · intro part index row hpart hrow hkey
    exact upsert_of_found (find?_of_hasKey hkeyed hpart hrow hkey)
  · intro hnobody
    rw [upsert_of_not_found (find?_eq_none hnobody)]

/-- A tuple whose first field is `[1, 2]` changes the row with the key `1`, and one whose first field is
null cannot be put twice. -/
theorem upsert_misses_own_key :
    ¬(empty.run [.insert (.string "test") (.array [.integer 1, .string "a"])]).ActsOnKey
      (.string "test") (.array [.integer 1, .integer 2]) [.string "x"]
      (.array [.array [.string "=", .integer 1, .string "z"]]) ∧
    ¬(empty.run [.upsert (.string "test") (.array [.null]) (.array [])]).ActsOnKey
      (.string "test") .null [] (.array []) := by
  constructor
  · intro hacts
    have hnobody : ((empty.run [.insert (.string "test") (.array [.integer 1, .string "a"])]).rows
        "test").all (fun row => !hasKey (.array [.integer 1, .integer 2]) row) = true := by
      decide +kernel
    have hinserted := hacts.inserts fun row hmem => by
      simpa using List.all_eq_true.mp hnobody row hmem
    have hlength := congrArg
      (fun outcome => outcome.toOption.map fun later => (later.rows "test").length) hinserted
    revert hlength
    decide +kernel
  · intro hacts
    exact hacts.never_duplicate "test" rfl

end Upsert

end Store

end ReplicaPool
