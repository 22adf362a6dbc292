import ReplicaPool.World.Method

/-!
# Plans of methods

An operation is routed by the mode that the caller gives, else by the mode of its plan. All families plan a
method alike: what only reads prefers a replica, and all else needs a master.
-/

namespace ReplicaPool

variable {operation : Operation} {method : Method} {plan : Plan}

theorem Operation.mode_of_short (hshort : operation.modes.length ≤ 1) :
    operation.mode = .ok (operation.modes.headD operation.default) := by
  rw [Operation.mode]
  rcases hmodes : operation.modes with _ | ⟨mode, _ | ⟨other, modes⟩⟩
  · rfl
  · rfl
  · simp [hmodes] at hshort

theorem Operation.mode_of_long (hlong : 2 ≤ operation.modes.length) :
    operation.mode = .error .tooManyModes := by
  rw [Operation.mode]
  rcases hmodes : operation.modes with _ | ⟨mode, _ | ⟨other, modes⟩⟩
  · simp [hmodes] at hlong
  · simp [hmodes] at hlong
  · rfl

inductive Family where
  | plain
  | typed
  | issued

/-- Getting is typed only and pinging is plain only, and an upsert has no rows to decode. -/
def Family.Offers : Family → Method → Prop
  | .plain, .get .. | .issued, .get .. | .typed, .ping | .issued, .ping | .typed, .upsert .. => False
  | _, _ => True

namespace Method

def plan? (method : Method) : Family → Option Plan
  | .plain => method.plain?
  | .typed => method.typed?
  | .issued => method.issued?

/-- The mode of a method whose caller gives none. -/
def ownMode : Method → Mode
  | .ping | .select .. | .get .. => .preferRo
  | .insert .. | .replace .. | .delete .. | .update .. | .upsert .. => .rw
  | .call .. | .call17 .. | .eval .. => .rw

/-- The method whose rows a typed method decodes: getting is selecting one row by its key. -/
def undecoded : Method → Method
  | .get space index key => .select space index 0 1 .eq key
  | method => method

theorem plain?_undecoded (htyped : method.typed? = some plan) : method.undecoded.plain? = some plan := by
  cases method with
  | ping => cases htyped
  | upsert => cases htyped
  | _ => exact htyped

theorem plain?_of_issued? (hissued : method.issued? = some plan) : method.plain? = some plan := by
  cases method with
  | ping => cases hissued
  | get => cases hissued
  | _ => exact hissued

theorem default_of_plain? (hplain : method.plain? = some plan) : plan.default = method.ownMode := by
  cases method with
  | get => cases hplain
  | _ =>
      cases hplain
      rfl

theorem ownMode_undecoded (method : Method) : method.undecoded.ownMode = method.ownMode := by
  cases method <;> rfl

theorem default_of_plan? {family : Family} (hplan : method.plan? family = some plan) :
    plan.default = method.ownMode := by
  cases family with
  | plain => exact default_of_plain? hplan
  | typed => rw [default_of_plain? (plain?_undecoded hplan), ownMode_undecoded]
  | issued => exact default_of_plain? (plain?_of_issued? hplan)

theorem isSome_plan?_iff (method : Method) (family : Family) :
    (method.plan? family).isSome = true ↔ family.Offers method := by
  cases family <;> cases method <;> simp [plan?, plain?, typed?, issued?, Family.Offers]

end Method

end ReplicaPool
