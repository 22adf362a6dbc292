import Mathlib.Algebra.Ring.Int.Defs
import ReplicaPool.Proofs.Store.Upsert

/-!
# Arithmetic on stored fields

Addition and subtraction give the exact number or none at all. `Operands` are the two signed words that an
operation works on. If their sum or difference is a signed word too, then it takes the place of the field, so
a field that is only computed with comes to its first number and all that was added, less all that was
subtracted. If it is not, then the operation overflows, and that is the only way in which an update or an
upsert comes to neither a result nor a rejection.
-/

namespace ReplicaPool

variable {fields middle later early late operations : List Json} {operation argument : Json} {field : Nat}
  {kind : Overflow} {left right start : Int}

theorem operationOn_inj {operator other : String} {place : Nat} {value : Json} :
    operationOn operator field argument = operationOn other place value ↔
      operator = other ∧ field = place ∧ argument = value := by
  simp [operationOn]

theorem Overflow.operator_inj {other : Overflow} (hsame : kind.operator = other.operator) :
    kind = other := by
  cases kind <;> cases other <;> first | rfl | exact absurd hsame (by decide)

theorem Overflow.operator_ne_assignment : kind.operator ≠ "=" := by
  cases kind <;> decide

/-! ### One computation -/

/-- The numbers that an arithmetic operation works on: the field as it is and the argument, both of them
signed words. -/
structure Operands (fields : List Json) (field : Nat) (argument : Json) (left right : Int) : Prop where
  key : 0 < field
  current : fields[field]? = some (.integer left)
  argument : argument = .integer right
  left_signed : isSigned 64 left = true
  right_signed : isSigned 64 right = true

theorem applyOperation_of_operands (hoperands : Operands fields field argument left right) :
    applyOperation fields (operationOn kind.operator field argument) =
      if isSigned 64 (kind.combine left right) then
        .ok (fields.set field (.integer (kind.combine left right)))
      else .error (.crash kind) := by
  obtain ⟨hkey, hcurrent, rfl, hleft, hright⟩ := hoperands
  have hposition : (0 : Int) < field := Int.natCast_pos.mpr hkey
  have harithmetic : applyArithmetic kind fields field (.integer left) (.integer right) =
      if isSigned 64 (kind.combine left right) then
        .ok (fields.set field (.integer (kind.combine left right)))
      else .error (.crash kind) := by
    simp only [applyArithmetic, Json.signed64?, if_pos hleft, if_pos hright]
  rw [← harithmetic]
  cases kind <;>
    simp only [applyOperation, operationOn, Overflow.operator, if_pos hposition, applyOperator,
      Int.toNat_natCast, hcurrent]

/-- Arithmetic that succeeds puts the exact number in the place of the field. -/
theorem exists_operands_of_applied
    (happlied : applyOperation fields (operationOn kind.operator field argument) = .ok later) :
    ∃ left right, Operands fields field argument left right ∧
      isSigned 64 (kind.combine left right) = true ∧
      later = fields.set field (.integer (kind.combine left right)) := by
  have hoperated := operated_applyOperation fields (operationOn kind.operator field argument)
  rw [happlied] at hoperated
  generalize hoperation : operationOn kind.operator field argument = operation at hoperated
  cases hoperated with
  | assign => exact absurd (operationOn_inj.mp hoperation).1 Overflow.operator_ne_assignment
  | add => exact absurd (operationOn_inj.mp hoperation).1 Overflow.operator_ne_assignment
  | @compute other place left right hkey hcurrent hleft hright hresult =>
      obtain ⟨hsame, rfl, hargument⟩ := operationOn_inj.mp hoperation
      obtain rfl := Overflow.operator_inj hsame
      exact ⟨left, right, ⟨hkey, hcurrent, hargument, hleft, hright⟩, hresult, rfl⟩

theorem applyOperation_eq_crash_iff : applyOperation fields operation = .error (.crash kind) ↔
    ∃ field argument left right, operation = operationOn kind.operator field argument ∧
      Operands fields field argument left right ∧ ¬isSigned 64 (kind.combine left right) = true := by
  constructor
  · intro hcrash
    have hoperated := operated_applyOperation fields operation
    rw [hcrash] at hoperated
    cases hoperated with
    | @overflow _ field left right hkey hcurrent hleft hright hresult =>
        exact ⟨field, .integer right, left, right, rfl, ⟨hkey, hcurrent, rfl, hleft, hright⟩, hresult⟩
  · rintro ⟨field, argument, left, right, rfl, hoperands, hresult⟩
    rw [applyOperation_of_operands hoperands, if_neg hresult]

/-! ### Lists of operations -/

/-- Operations of which one computes a number that is no signed word, from what those before it have made. -/
def Overruns (kind : Overflow) (fields operations : List Json) : Prop :=
  ∃ early field argument late middle left right,
    operations = early ++ operationOn kind.operator field argument :: late ∧
    applyOperations fields early = .ok middle ∧ Operands middle field argument left right ∧
    ¬isSigned 64 (kind.combine left right) = true

theorem applyOperations_eq_crash_iff :
    applyOperations fields operations = .error (.crash kind) ↔ Overruns kind fields operations := by
  rw [applyOperations_eq_error_iff]
  constructor
  · rintro ⟨early, operation, late, middle, hoperations, hearly, hcrash⟩
    obtain ⟨field, argument, left, right, rfl, hoperands, hresult⟩ :=
      applyOperation_eq_crash_iff.mp hcrash
    exact ⟨early, field, argument, late, middle, left, right, hoperations, hearly, hoperands, hresult⟩
  · rintro ⟨early, field, argument, late, middle, left, right, hoperations, hearly, hoperands, hresult⟩
    exact ⟨early, _, late, middle, hoperations, hearly,
      applyOperation_eq_crash_iff.mpr ⟨field, argument, left, right, rfl, hoperands, hresult⟩⟩

/-- What an operation adds to a field, which is less than nothing if it subtracts. -/
def contribution (field : Nat) : Json → Int
  | .array [.string "+", .integer named, .integer amount] => if named = field then amount else 0
  | .array [.string "-", .integer named, .integer amount] => if named = field then -amount else 0
  | _ => 0

theorem contribution_arithmetic (kind : Overflow) (field named : Nat) (left amount : Int) :
    left + contribution field (operationOn kind.operator named (.integer amount)) =
      if named = field then kind.combine left amount else left := by
  cases kind <;>
    simp only [contribution, operationOn, Overflow.operator, Overflow.combine, Int.natCast_inj] <;>
    split <;> omega

theorem contribution_assignment (field named : Nat) (argument : Json) :
    contribution field (operationOn "=" named argument) = 0 := rfl

/-- An operation that succeeds and does not assign a number adds its contribution to it. -/
theorem getElem?_of_applied (happlied : applyOperation fields operation = .ok later)
    (hcurrent : fields[field]? = some (.integer start))
    (hunassigned : ∀ argument, operation ≠ operationOn "=" field argument) :
    later[field]? = some (.integer (start + contribution field operation)) := by
  have hbound := (List.getElem?_eq_some_iff.mp hcurrent).1
  have hoperated := operated_applyOperation fields operation
  rw [happlied] at hoperated
  cases hoperated with
  | @assign named argument hkey hnamed =>
      have hne : named ≠ field := by
        rintro rfl
        exact hunassigned argument rfl
      rw [contribution_assignment, Int.add_zero, List.getElem?_set_ne hne, hcurrent]
  | add => rw [contribution_assignment, Int.add_zero, List.getElem?_append_left hbound, hcurrent]
  | @compute kind named left right hkey hnamed =>
      rw [contribution_arithmetic]
      split
      · rename_i hsame
        subst hsame
        rw [hcurrent] at hnamed
        cases hnamed
        rw [List.getElem?_set_self hbound]
      · rename_i hne
        rw [List.getElem?_set_ne hne, hcurrent]

/-- A number that no operation assigns comes to itself and all their contributions. -/
theorem getElem?_of_applyOperations (happlied : applyOperations fields operations = .ok later)
    (hcurrent : fields[field]? = some (.integer start))
    (hunassigned : ∀ argument, operationOn "=" field argument ∉ operations) :
    later[field]? = some (.integer (start + (operations.map (contribution field)).sum)) := by
  induction operations generalizing fields start with
  | nil =>
      cases happlied
      rw [List.map_nil, List.sum_nil, Int.add_zero, hcurrent]
  | cons operation rest ih =>
      obtain ⟨middle, hfirst, hrest⟩ := applyOperations_cons_ok_iff.mp happlied
      have hmiddle := getElem?_of_applied hfirst hcurrent fun argument hassigned =>
        hunassigned argument (hassigned ▸ List.mem_cons_self)
      rw [List.map_cons, List.sum_cons, ← Int.add_assoc]
      exact ih hrest hmiddle fun argument hmem => hunassigned argument (List.mem_cons_of_mem _ hmem)

structure ComputedExactly (fields operations later : List Json) : Prop where
  /-- Every sum or difference takes the place of its field when it is computed, and stays until the field is
  named again. -/
  each : ∀ {early late : List Json} {kind : Overflow} {field : Nat} {argument : Json},
    operations = early ++ operationOn kind.operator field argument :: late →
      ∃ middle left right, applyOperations fields early = .ok middle ∧
        Operands middle field argument left right ∧ isSigned 64 (kind.combine left right) = true ∧
        applyOperations (middle.set field (.integer (kind.combine left right))) late = .ok later ∧
        ((∀ operation ∈ late, namedField? operation ≠ some field) →
          later[field]? = some (.integer (kind.combine left right)))
  /-- Over all operations a number comes to itself and what was added to it. -/
  total : ∀ {field : Nat} {start : Int}, fields[field]? = some (.integer start) →
    (∀ argument, operationOn "=" field argument ∉ operations) →
      later[field]? = some (.integer (start + (operations.map (contribution field)).sum))

theorem computedExactly_of_applied (happlied : applyOperations fields operations = .ok later) :
    ComputedExactly fields operations later where
  each := by
    rintro early late kind field argument rfl
    obtain ⟨middle, hearly, hlate⟩ := exists_of_applyOperations_append happlied
    obtain ⟨reached, hcomputed, hrest⟩ := applyOperations_cons_ok_iff.mp hlate
    obtain ⟨left, right, hoperands, hresult, rfl⟩ := exists_operands_of_applied hcomputed
    have hbound := (List.getElem?_eq_some_iff.mp hoperands.current).1
    refine ⟨middle, left, right, hearly, hoperands, hresult, hrest, fun hunnamed => ?_⟩
    rw [(amended_of_applied hrest).unnamed (by rwa [List.length_set]) hunnamed,
      List.getElem?_set_self hbound]
  total := getElem?_of_applyOperations happlied

theorem updateRow_eq_crash_iff {row changes : Json} : updateRow row changes = .error (.crash kind) ↔
    ∃ fields operations, row = .array fields ∧ changes = .array operations ∧
      Overruns kind fields operations := by
  constructor
  · intro hcrash
    obtain ⟨⟨⟩⟩ | ⟨⟨⟩⟩ | ⟨fields, operations, hrow, hchanges, hfailed⟩ := updateRow_failed hcrash
    exact ⟨fields, operations, hrow, hchanges, applyOperations_eq_crash_iff.mp hfailed⟩
  · rintro ⟨fields, operations, rfl, rfl, hoverruns⟩
    rw [updateRow, applyOperations_eq_crash_iff.mpr hoverruns]
    rfl

namespace Store

variable {store : Store} {space key tuple changes row changed : Json} {name : String} {index : Nat}

def OverrunsAt (store : Store) (name : String) (key changes : Json) (kind : Overflow) : Prop :=
  ∃ index fields operations, store.find? name key = some (index, .array fields) ∧
    changes = .array operations ∧ Overruns kind fields operations

def Computes (store : Store) (name : String) (key changes changed : Json) (reached : Store) : Prop :=
  ∃ index fields operations later, store.find? name key = some (index, .array fields) ∧
    changes = .array operations ∧ changed = .array later ∧
    reached = store.setRows name ((store.rows name).set index changed) ∧
    ComputedExactly fields operations later

theorem overrunsAt_iff (hfound : store.find? name key = some (index, row)) :
    store.OverrunsAt name key changes kind ↔ updateRow row changes = .error (.crash kind) := by
  rw [updateRow_eq_crash_iff]
  constructor
  · rintro ⟨place, fields, operations, hthere, hchanges, hoverruns⟩
    rw [hfound] at hthere
    cases hthere
    exact ⟨fields, operations, rfl, hchanges, hoverruns⟩
  · rintro ⟨fields, operations, rfl, hchanges, hoverruns⟩
    exact ⟨index, fields, operations, hfound, hchanges, hoverruns⟩

theorem not_overrunsAt (hfound : store.find? name key = none) : ¬store.OverrunsAt name key changes kind := by
  rintro ⟨index, fields, operations, hthere, -⟩
  rw [hfound] at hthere
  cases hthere

theorem computes_of_updateRow (hfound : store.find? name key = some (index, row))
    (hupdate : updateRow row changes = .ok changed) :
    store.Computes name key changes changed
      (store.setRows name ((store.rows name).set index changed)) := by
  obtain ⟨fields, operations, later, rfl, hchanges, hchanged, happlied⟩ := exists_of_updateRow hupdate
  exact ⟨index, fields, operations, later, hfound, hchanges, hchanged, rfl,
    computedExactly_of_applied happlied⟩

/-- Updates and upserts compute exactly, overflow where a number is no signed word, and come to a result or
a rejection everywhere else. -/
structure ComputesExactly (store : Store) : Prop where
  update_overflows_iff : ∀ {space key changes : Json} {kind : Overflow},
    (store.perform (.update space key changes)).2 = .error (.crash kind) ↔
      store.OverrunsAt (spaceName space) key changes kind
  /-- An upsert overflows where an update by the first field of its tuple does. -/
  upsert_overflows_iff : ∀ {space tuple changes : Json} {kind : Overflow},
    (store.perform (.upsert space tuple changes)).2 = .error (.crash kind) ↔
      ∃ key, primaryKey? tuple = some key ∧ store.OverrunsAt (spaceName space) key changes kind
  /-- A number that is no signed word is never written, nor is anything before it. -/
  unchanged : ∀ {command : Command} {kind : Overflow},
    (store.perform command).2 = .error (.crash kind) → (store.perform command).1 = store
  update_exact : ∀ {space key changes changed : Json} {reached : Store},
    store.perform (.update space key changes) = (reached, .ok (.found (some changed))) →
      store.Computes (spaceName space) key changes changed reached
  upsert_exact : ∀ {space key changes : Json} {fields : List Json} {reached : Store} {answer : Answer},
    store.perform (.upsert space (.array (key :: fields)) changes) = (reached, .ok answer) →
      (∃ changed, store.Computes (spaceName space) key changes changed reached) ∨
      store.find? (spaceName space) key = none ∧ reached = store.setRows (spaceName space)
        (store.rows (spaceName space) ++ [.array (key :: fields)])

theorem perform_update_eq_crash_iff :
    (store.perform (.update space key changes)).2 = .error (.crash kind) ↔
      store.OverrunsAt (spaceName space) key changes kind := by
  rw [perform_update]
  cases hfound : store.find? (spaceName space) key with
  | none => exact iff_of_false nofun (not_overrunsAt hfound)
  | some found =>
      rw [overrunsAt_iff hfound]
      dsimp only
      cases updateRow found.2 changes with
      | error failure => simp
      | ok changed => exact iff_of_false nofun nofun

theorem perform_upsert_eq_crash_iff :
    (store.perform (.upsert space tuple changes)).2 = .error (.crash kind) ↔
      ∃ key, primaryKey? tuple = some key ∧ store.OverrunsAt (spaceName space) key changes kind := by
  rw [perform_upsert]
  cases htuple : primaryKey? tuple with
  | none =>
      rw [upsert_of_no_key htuple]
      exact iff_of_false nofun nofun
  | some key =>
      obtain ⟨fields, rfl⟩ := exists_of_primaryKey? htuple
      simp only [Option.some.injEq, exists_eq_left']
      cases hfound : store.find? (spaceName space) key with
      | none =>
          rw [upsert_of_not_found hfound]
          refine iff_of_false ?_ (not_overrunsAt hfound)
          by_cases hthere : (store.rows (spaceName space)).any (hasKey key) = true
          · rw [if_pos hthere]
            nofun
          · rw [if_neg hthere]
            nofun
      | some found =>
          rw [overrunsAt_iff hfound, upsert_of_found hfound]
          cases updateRow found.2 changes with
          | error failure => simp [Except.map]
          | ok changed => exact iff_of_false nofun nofun

/-- Whatever is in a store, its arithmetic is exact and overflows rather than write another number. -/
theorem arithmetic_exact (store : Store) : store.ComputesExactly where
  update_overflows_iff := perform_update_eq_crash_iff
  upsert_overflows_iff := perform_upsert_eq_crash_iff
  unchanged := perform_failed
  update_exact := by
    intro space key changes changed reached hperform
    obtain ⟨index, row, hfound, hupdate, rfl⟩ := exists_of_perform_update hperform
    exact computes_of_updateRow hfound hupdate
  upsert_exact := by
    intro space key changes fields reached answer hperform
    rw [perform_upsert] at hperform
    cases hfound : store.find? (spaceName space) key with
    | none =>
        rw [upsert_of_not_found hfound] at hperform
        by_cases hthere : (store.rows (spaceName space)).any (hasKey key) = true
        · rw [if_pos hthere] at hperform
          cases hperform
        · rw [if_neg hthere] at hperform
          cases hperform
          exact Or.inr ⟨rfl, rfl⟩
    | some found =>
        rw [upsert_of_found hfound] at hperform
        cases hupdate : updateRow found.2 changes with
        | error failure =>
            rw [hupdate] at hperform
            cases hperform
        | ok row =>
            rw [hupdate] at hperform
            cases hperform
            exact Or.inl ⟨row, computes_of_updateRow hfound hupdate⟩

set_option maxRecDepth 2000 in
/-- A field at an end of the range overflows, by an update as well as by an upsert. -/
theorem arithmetic_overflows :
    ((empty.run [.insert (.string "test") (.array [.integer 1, .integer 9223372036854775807])]).perform
      (.update (.string "test") (.array [.integer 1])
        (.array [.array [.string "+", .integer 1, .integer 1]]))).2 = .error (.crash .add) ∧
    ((empty.run [.insert (.string "test") (.array [.integer 1, .integer (-9223372036854775808)])]).perform
      (.upsert (.string "test") (.array [.integer 1])
        (.array [.array [.string "-", .integer 1, .integer 1]]))).2 = .error (.crash .subtract) :=
  ⟨rfl, rfl⟩

end Store

end ReplicaPool
