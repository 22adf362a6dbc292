import ReplicaPool.Store.Update

/-!
# Operations on a row

`Operated` says all that an operation comes to: it assigns a field, adds the next one, computes a field,
overflows, or is turned down. So an operation that succeeds changes one field that it names, or adds the one
field that was missing, and `Amended` says what follows for a list of them. Operations in two parts do what
the second part does after the first.
-/

namespace ReplicaPool

variable {fields middle later early late operations : List Json}
  {operation current argument key row changes changed : Json} {space : String} {field : Nat} {kind : Overflow} {failure : Failure Rejection}

def Overflow.operator : Overflow → String
  | .add => "+"
  | .subtract => "-"

def operationOn (operator : String) (field : Nat) (argument : Json) : Json :=
  .array [.string operator, .integer field, argument]

def namedField? : Json → Option Nat
  | .array [.string _, .integer field, _] => some field.toNat
  | _ => none

theorem Json.signed64?_eq_some_iff {value : Json} {number : Int} :
    value.signed64? = some number ↔ value = .integer number ∧ isSigned 64 number = true := by
  cases value with
  | integer present =>
      rw [signed64?, Option.ite_none_right_eq_some, Option.some_inj, Json.integer.injEq, and_comm]
      exact and_congr_right fun hsame => hsame ▸ Iff.rfl
  | _ => exact iff_of_false nofun fun hboth => nomatch hboth.1

/-! ### One operation -/

inductive Operated (fields : List Json) : Json → Except (Failure Rejection) (List Json) → Prop
  | assign {field : Nat} {argument : Json} (hkey : 0 < field) (hfield : field < fields.length) :
      Operated fields (operationOn "=" field argument) (.ok (fields.set field argument))
  | add {argument : Json} (hkey : 0 < fields.length) :
      Operated fields (operationOn "=" fields.length argument) (.ok (fields ++ [argument]))
  | compute {kind : Overflow} {field : Nat} {left right : Int} (hkey : 0 < field)
      (hcurrent : fields[field]? = some (.integer left)) (hleft : isSigned 64 left = true)
      (hright : isSigned 64 right = true) (hresult : isSigned 64 (kind.combine left right) = true) :
      Operated fields (operationOn kind.operator field (.integer right))
        (.ok (fields.set field (.integer (kind.combine left right))))
  | overflow {kind : Overflow} {field : Nat} {left right : Int} (hkey : 0 < field)
      (hcurrent : fields[field]? = some (.integer left)) (hleft : isSigned 64 left = true)
      (hright : isSigned 64 right = true) (hresult : ¬isSigned 64 (kind.combine left right) = true) :
      Operated fields (operationOn kind.operator field (.integer right)) (.error (.crash kind))
  | reject {operation : Json} {reason : Rejection} (hreason : ∀ space, reason ≠ .duplicateKey space) :
      Operated fields operation (.error (.error reason))

theorem operated_applyArithmetic (kind : Overflow) (argument : Json) (hkey : 0 < field)
    (hcurrent : fields[field]? = some current) :
    Operated fields (operationOn kind.operator field argument)
      (applyArithmetic kind fields field current argument) := by
  unfold applyArithmetic
  split
  · rename_i left right hleft hright
    obtain ⟨rfl, hleftSigned⟩ := Json.signed64?_eq_some_iff.mp hleft
    obtain ⟨rfl, hrightSigned⟩ := Json.signed64?_eq_some_iff.mp hright
    dsimp only
    split
    · rename_i hresult
      exact .compute hkey hcurrent hleftSigned hrightSigned hresult
    · rename_i hresult
      exact .overflow hkey hcurrent hleftSigned hrightSigned hresult
  · exact .reject nofun

theorem operated_applyOperator (operator : String) (argument : Json) (hkey : 0 < field) :
    Operated fields (operationOn operator field argument)
      (applyOperator operator fields field argument) := by
  unfold applyOperator
  split
  · split
    · rename_i hfield
      exact .assign hkey hfield
    · split
      · rename_i hnext
        subst hnext
        exact .add hkey
      · exact .reject nofun
  · split
    · rename_i hcurrent
      exact operated_applyArithmetic .add argument hkey hcurrent
    · exact .reject nofun
  · split
    · rename_i hcurrent
      exact operated_applyArithmetic .subtract argument hkey hcurrent
    · exact .reject nofun
  · exact .reject nofun

theorem operated_applyOperation (fields : List Json) (operation : Json) :
    Operated fields operation (applyOperation fields operation) := by
  unfold applyOperation
  split
  · rename_i operator field argument
    split
    · rename_i hkey
      obtain ⟨number, rfl⟩ := Int.eq_ofNat_of_zero_le (Int.le_of_lt hkey)
      exact operated_applyOperator operator argument (Int.natCast_pos.mp hkey)
    · exact .reject nofun
  · exact .reject nofun
  · exact .reject nofun

theorem applyOperation_ne_duplicate :
    applyOperation fields operation ≠ .error (.error (.duplicateKey space)) := by
  intro hduplicate
  have hoperated := operated_applyOperation fields operation
  rw [hduplicate] at hoperated
  cases hoperated with
  | reject hreason => exact hreason space rfl

inductive Amendment (fields : List Json) (operation : Json) : List Json → Prop
  | change {field : Nat} {value : Json} (hkey : 0 < field) (hfield : field < fields.length)
      (hnamed : namedField? operation = some field) : Amendment fields operation (fields.set field value)
  | add {argument : Json} (hkey : 0 < fields.length)
      (hassigned : operation = operationOn "=" fields.length argument) :
      Amendment fields operation (fields ++ [argument])

theorem amendment_of_applied (happlied : applyOperation fields operation = .ok later) :
    Amendment fields operation later := by
  have hoperated := operated_applyOperation fields operation
  rw [happlied] at hoperated
  cases hoperated with
  | assign hkey hfield => exact .change hkey hfield rfl
  | add hkey => exact .add hkey rfl
  | compute hkey hcurrent => exact .change hkey (List.getElem?_eq_some_iff.mp hcurrent).1 rfl

/-! ### Lists of operations -/

theorem applyOperations_cons_ok_iff : applyOperations fields (operation :: late) = .ok later ↔
    ∃ middle, applyOperation fields operation = .ok middle ∧ applyOperations middle late = .ok later := by
  rw [applyOperations]
  cases applyOperation fields operation with
  | error failure => exact iff_of_false nofun fun ⟨middle, hfirst, _⟩ => nomatch hfirst
  | ok middle => simp [bind, Except.bind]

/-- Operations in two parts do what the second part does with what the first has made. -/
theorem applyOperations_append (fields early late : List Json) :
    applyOperations fields (early ++ late) =
      (applyOperations fields early).bind fun middle => applyOperations middle late := by
  induction early generalizing fields with
  | nil => rfl
  | cons operation rest ih =>
      rw [List.cons_append, applyOperations, applyOperations]
      cases applyOperation fields operation with
      | error failure => rfl
      | ok middle => exact ih middle

theorem applyOperations_append_of_ok (happlied : applyOperations fields early = .ok middle) :
    applyOperations fields (early ++ late) = applyOperations middle late := by
  rw [applyOperations_append, happlied]
  rfl

theorem exists_of_applyOperations_append (happlied : applyOperations fields (early ++ late) = .ok later) :
    ∃ middle, applyOperations fields early = .ok middle ∧ applyOperations middle late = .ok later := by
  rw [applyOperations_append] at happlied
  cases hearly : applyOperations fields early with
  | error failure =>
      rw [hearly] at happlied
      cases happlied
  | ok middle =>
      rw [hearly] at happlied
      exact ⟨middle, rfl, happlied⟩

/-- If operations fail, then the first of them that does so decides. -/
theorem applyOperations_eq_error_iff : applyOperations fields operations = .error failure ↔
    ∃ early operation late middle, operations = early ++ operation :: late ∧
      applyOperations fields early = .ok middle ∧ applyOperation middle operation = .error failure := by
  constructor
  · intro hfailed
    induction operations generalizing fields with
    | nil => cases hfailed
    | cons operation rest ih =>
        rw [applyOperations] at hfailed
        cases hfirst : applyOperation fields operation with
        | error cause =>
            rw [hfirst] at hfailed
            cases hfailed
            exact ⟨[], operation, rest, fields, rfl, rfl, hfirst⟩
        | ok next =>
            rw [hfirst] at hfailed
            obtain ⟨early, other, late, middle, rfl, hearly, hother⟩ := ih hfailed
            exact ⟨operation :: early, other, late, middle, rfl,
              applyOperations_cons_ok_iff.mpr ⟨next, hfirst, hearly⟩, hother⟩
  · rintro ⟨early, operation, late, middle, rfl, hearly, hfailed⟩
    rw [applyOperations_append_of_ok hearly, applyOperations, hfailed]
    rfl

theorem applyOperations_ne_duplicate :
    applyOperations fields operations ≠ .error (.error (.duplicateKey space)) := by
  intro hduplicate
  obtain ⟨-, operation, -, middle, -, -, hfailed⟩ := applyOperations_eq_error_iff.mp hduplicate
  exact applyOperation_ne_duplicate hfailed

structure Amended (fields operations later : List Json) : Prop where
  /-- The primary key stays. -/
  key_eq : later[0]? = fields[0]?
  /-- No field is removed. -/
  length_le : fields.length ≤ later.length
  /-- Every operation adds one field at most. -/
  growth_le : later.length ≤ fields.length + operations.length
  /-- Fields that no operation names stay. -/
  unnamed : ∀ {field : Nat}, field < fields.length →
    (∀ operation ∈ operations, namedField? operation ≠ some field) → later[field]? = fields[field]?
  /-- Each further field was assigned when it was the next one, so there are no gaps. -/
  added : ∀ {field : Nat}, fields.length ≤ field → field < later.length →
    ∃ early argument late middle, operations = early ++ operationOn "=" field argument :: late ∧
      applyOperations fields early = .ok middle ∧ middle.length = field

theorem amended_nil (fields : List Json) : Amended fields [] fields where
  key_eq := rfl
  length_le := Nat.le_refl _
  growth_le := Nat.le_refl _
  unnamed := fun _ _ => rfl
  added := fun hle hlt => absurd hlt (Nat.not_lt.mpr hle)

theorem Amended.cons (hfirst : applyOperation fields operation = .ok middle)
    (hrest : Amended middle late later) : Amended fields (operation :: late) later := by
  have hlater : ∀ {field : Nat}, middle.length ≤ field → field < later.length →
      ∃ early argument rest reached, operation :: late = early ++ operationOn "=" field argument :: rest ∧
        applyOperations fields early = .ok reached ∧ reached.length = field := by
    intro field hle hlt
    obtain ⟨early, argument, rest, reached, rfl, hearly, hlength⟩ := hrest.added hle hlt
    exact ⟨operation :: early, argument, rest, reached, rfl,
      applyOperations_cons_ok_iff.mpr ⟨middle, hfirst, hearly⟩, hlength⟩
  have hlengthLe := hrest.length_le
  have hgrowthLe := hrest.growth_le
  cases amendment_of_applied hfirst with
  | @change named value hkey hnamedLt hnamed =>
      rw [List.length_set] at hlengthLe hgrowthLe hlater
      constructor
      case key_eq => rw [hrest.key_eq, List.getElem?_set_ne (Nat.ne_of_gt hkey)]
      case length_le => exact hlengthLe
      case growth_le =>
        rw [List.length_cons]
        omega
      case unnamed =>
        intro field hfield hunnamed
        have hne : named ≠ field := by
          rintro rfl
          exact hunnamed operation List.mem_cons_self hnamed
        rw [hrest.unnamed (by rwa [List.length_set]) fun other hother =>
          hunnamed other (List.mem_cons_of_mem _ hother), List.getElem?_set_ne hne]
      case added => exact hlater
  | @add argument hkey hassigned =>
      rw [List.length_append, List.length_singleton] at hlengthLe hgrowthLe
      constructor
      case key_eq => rw [hrest.key_eq, List.getElem?_append_left hkey]
      case length_le => omega
      case growth_le =>
        rw [List.length_cons]
        omega
      case unnamed =>
        intro field hfield hunnamed
        have hbound : field < (fields ++ [argument]).length := by
          rw [List.length_append]
          omega
        rw [hrest.unnamed hbound fun other hother => hunnamed other (List.mem_cons_of_mem _ hother),
          List.getElem?_append_left hfield]
      case added =>
        intro field hle hlt
        rcases Nat.eq_or_lt_of_le hle with rfl | hgt
        · exact ⟨[], argument, late, fields, congrArg (· :: late) hassigned, rfl, rfl⟩
        · refine hlater ?_ hlt
          rw [List.length_append, List.length_singleton]
          exact hgt

theorem amended_of_applied (happlied : applyOperations fields operations = .ok later) :
    Amended fields operations later := by
  induction operations generalizing fields with
  | nil =>
      cases happlied
      exact amended_nil _
  | cons operation rest ih =>
      obtain ⟨middle, hfirst, hrest⟩ := applyOperations_cons_ok_iff.mp happlied
      exact .cons hfirst (ih hrest)

theorem applyOperations_cons (happlied : applyOperations (key :: fields) operations = .ok later) :
    ∃ rest, later = key :: rest := by
  have hkey := (amended_of_applied happlied).key_eq
  cases later with
  | nil => cases hkey
  | cons first rest =>
      cases hkey
      exact ⟨rest, rfl⟩

/-! ### Rows -/

theorem exists_of_updateRow (hupdate : updateRow row changes = .ok changed) :
    ∃ fields operations later, row = .array fields ∧ changes = .array operations ∧
      changed = .array later ∧ applyOperations fields operations = .ok later := by
  unfold updateRow at hupdate
  split at hupdate
  · rename_i operations
    split at hupdate
    · rename_i fields
      cases happlied : applyOperations fields operations with
      | error failure =>
          rw [happlied] at hupdate
          cases hupdate
      | ok later =>
          rw [happlied] at hupdate
          cases hupdate
          exact ⟨fields, operations, later, rfl, rfl, rfl, happlied⟩
    · cases hupdate
  · cases hupdate

theorem updateRow_failed (hupdate : updateRow row changes = .error failure) :
    failure = .error .operationsNotArray ∨ failure = .error .rowNotArray ∨
      ∃ fields operations, row = .array fields ∧ changes = .array operations ∧
        applyOperations fields operations = .error failure := by
  unfold updateRow at hupdate
  split at hupdate
  · rename_i operations
    split at hupdate
    · rename_i fields
      cases happlied : applyOperations fields operations with
      | error cause =>
          rw [happlied] at hupdate
          cases hupdate
          exact Or.inr (Or.inr ⟨fields, operations, rfl, rfl, happlied⟩)
      | ok later =>
          rw [happlied] at hupdate
          cases hupdate
    · cases hupdate
      exact Or.inr (Or.inl rfl)
  · cases hupdate
    exact Or.inl rfl

theorem updateRow_ne_duplicate : updateRow row changes ≠ .error (.error (.duplicateKey space)) := by
  intro hduplicate
  obtain ⟨⟨⟩⟩ | ⟨⟨⟩⟩ | ⟨fields, operations, -, -, hfailed⟩ := updateRow_failed hduplicate
  exact applyOperations_ne_duplicate hfailed

end ReplicaPool
