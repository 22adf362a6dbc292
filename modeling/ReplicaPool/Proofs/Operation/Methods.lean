import ReplicaPool.Proofs.Operation.Asynchronous
import ReplicaPool.Proofs.Operation.LiveNodes

/-!
# The families of methods agree

Methods of different families that do the same thing plan the same: they route by the same mode and send the
same request. So a typed method does to a pool and to its cluster what the plain one does, and differs in the
decoding only, and an issued method does what the plain one does unless something comes in between.
-/

namespace ReplicaPool

namespace World

variable {world : World} {service : ServiceId}

/-! ### Nothing in between -/

theorem runUpkeep_of_idle (hidle : world.stepUpkeep service = none) (fuel : Nat) :
    runUpkeep service fuel world = world := by
  cases fuel with
  | zero => rfl
  | succ fuel => rw [runUpkeep, hidle]

/-- Where no upkeep is due, nothing changes by settling. -/
theorem settle_of_idle (hidle : ∀ service, world.stepUpkeep service = none) : world.settle = world :=
  List.foldl_fixed' (fun service => runUpkeep_of_idle (hidle service) stepLimit) _

/-! ### Families -/

/-- A typed operation picks the connection that a plain one picks and does the same there. Errors are those
of the plain one, and rows are decoded after the fact. -/
structure TypedAs (world : World) (service : ServiceId) (plain typed : Operation) : Prop where
  picks : ∀ mode, plain.mode = .ok mode → ∀ connection moved,
    world.resolve service mode = (.ok connection, moved) →
      (world.request service plain).1 = (moved.send connection plain.request).1 ∧
        ∀ shape, (world.requestTyped service typed shape).1 = (moved.send connection plain.request).1
  effect : ∀ shape, (world.requestTyped service typed shape).1 = (world.request service plain).1
  failed : ∀ failure, (world.request service plain).2 = .error failure →
    ∀ shape, (world.requestTyped service typed shape).2 = .error failure
  decoded : ∀ rows, (world.request service plain).2 = .ok rows →
    ∀ shape, (world.requestTyped service typed shape).2 = (shape.decodeRows rows).mapError (.error ∘ .decode)

/-- What becomes of an issued operation is what a plain one does in a world, with the same answer; only an
abrupt end becomes an internal error. -/
structure IssuedAs (world : World) (service : ServiceId) (plain : Operation)
    (issued : World × List (Except PoolError (List Json))) : Prop where
  picks : ∀ mode, plain.mode = .ok mode → ∀ connection moved,
    world.resolve service mode = (.ok connection, moved) →
      (world.request service plain).1 = (moved.send connection plain.request).1 ∧
        issued.1 = (moved.send connection plain.request).1
  effect : issued.1 = (world.request service plain).1
  answered : ∀ rows, (world.request service plain).2 = .ok rows → issued.2 = [.ok rows]
  failed : ∀ cause, (world.request service plain).2 = .error (.error cause) →
    issued.2 = [.error cause]
  crashed : ∀ overflow, (world.request service plain).2 = .error (.crash overflow) →
    issued.2 = [.error (.internal overflow.message)]

theorem typedAs_self (world : World) (service : ServiceId) (operation : Operation) :
    world.TypedAs service operation operation where
  picks := by
    intro mode hmode connection moved hresolve
    have hsent : (world.request service operation).1 = (moved.send connection operation.request).1 := by
      rw [request_of_ok hmode hresolve]
    exact ⟨hsent, fun shape => hsent⟩
  effect := fun shape => rfl
  failed := by
    intro failure hfailure shape
    rcases (requestTyped_cases world service operation shape).2 with
      ⟨rows, hrows, -⟩ | ⟨other, hother, htyped⟩
    · rw [hfailure] at hrows
      cases hrows
    · rw [hfailure] at hother
      cases hother
      exact htyped
  decoded := by
    intro rows hrows shape
    rcases (requestTyped_cases world service operation shape).2 with
      ⟨others, hothers, htyped⟩ | ⟨failure, hfailure, -⟩
    · rw [hrows] at hothers
      cases hothers
      exact htyped
    · rw [hrows] at hfailure
      cases hfailure

theorem issuedAs_answerAll (world : World) (service : ServiceId) (operation : Operation) :
    world.IssuedAs service operation (world.answerAll service [operation]) where
  picks := by
    intro mode hmode connection moved hresolve
    rw [answerAll_singleton, request_of_ok hmode hresolve]
    exact ⟨rfl, rfl⟩
  effect := by
    rw [answerAll_singleton]
  answered := by
    intro rows hrows
    rw [answerAll_singleton, hrows]
    rfl
  failed := by
    intro cause hcause
    rw [answerAll_singleton, hcause]
    rfl
  crashed := by
    intro overflow hoverflow
    rw [answerAll_singleton, hoverflow]
    rfl

/-- With at most one mode given, a typed method is the plain one with its rows decoded, and an issued one is
the plain one at the time of its turn, which comes after the upkeep that is due. With more modes a method of
any family says so, and nothing else happens. -/
theorem methods_agree (world : World) (service : ServiceId) (method : Method) (modes : List Mode) :
    (modes.length ≤ 1 →
      (∀ typed, method.typed? = some typed → ∃ plain, method.undecoded.plain? = some plain ∧
        world.TypedAs service (plain.operation modes) (typed.operation modes)) ∧
      ∀ issued, method.issued? = some issued → ∃ plain, method.plain? = some plain ∧
        world.IssuedAs service (plain.operation modes)
          (world.answerAll service [issued.operation modes]) ∧
        world.settle.IssuedAs service (plain.operation modes)
          (world.requestAll service [issued.operation modes]) ∧
        ((∀ other, world.stepUpkeep other = none) →
          world.IssuedAs service (plain.operation modes)
            (world.requestAll service [issued.operation modes]))) ∧
    (2 ≤ modes.length →
      (∀ plain, method.plain? = some plain →
        world.request service (plain.operation modes) = (world, .error (.error .tooManyModes))) ∧
      (∀ typed, method.typed? = some typed → ∀ shape,
        world.requestTyped service (typed.operation modes) shape =
          (world, .error (.error .tooManyModes))) ∧
      ∀ issued, method.issued? = some issued →
        world.answerAll service [issued.operation modes] = (world, [.error .tooManyModes]) ∧
        world.requestAll service [issued.operation modes] = (world, [.error .tooManyModes])) := by
  constructor
  · intro hshort
    constructor
    · intro typed htyped
      exact ⟨typed, Method.plain?_undecoded htyped, typedAs_self world service _⟩
    · intro issued hissued
      have hmode : (issued.operation modes).mode = .ok (modes.headD issued.default) :=
        Operation.mode_of_short hshort
      have hturn : world.settle.IssuedAs service (issued.operation modes)
          (world.requestAll service [issued.operation modes]) := by
        rw [requestAll, turn_of_routed hmode]
        exact issuedAs_answerAll world.settle service _
      refine ⟨issued, Method.plain?_of_issued? hissued, issuedAs_answerAll world service _, hturn,
        fun hidle => ?_⟩
      rwa [settle_of_idle hidle] at hturn
  · intro hlong
    have hmode : ∀ plan : Plan, (plan.operation modes).mode = .error .tooManyModes :=
      fun plan => Operation.mode_of_long hlong
    refine ⟨?_, ?_, ?_⟩
    · intro plain hplain
      exact request_of_usage (hmode plain)
    · intro typed htyped shape
      rw [requestTyped, request_of_usage (hmode typed)]
      rfl
    · intro issued hissued
      exact ⟨answerAll_of_usage (hmode issued), requestAll_of_usage (hmode issued)⟩

theorem idle_recoveredRun (service : ServiceId) :
    (System.run {} System.recoveredRun).world.stepUpkeep service = none := by
  cases service with
  | zero => exact Option.isNone_iff_eq_none.mp (by decide +kernel)
  | succ service =>
      have hlength : (System.run {} System.recoveredRun).world.services.length = 1 := by
        decide +kernel
      have hnone : (System.run {} System.recoveredRun).world.services[service + 1]? = none := by
        rw [List.getElem?_eq_none_iff, hlength]
        exact Nat.le_add_left 1 service
      rw [stepUpkeep, hnone]

theorem methods_agree_idle :
    let world := (System.run {} System.recoveredRun).world
    let busy := (System.run {} System.failoverRun).world
    let firstRow : Method := .get (.string "test") (.string "primary") (.array [.integer 1])
    let listens : Method := .eval "return box.cfg.listen" (.array [])
    (∃ typed plain, firstRow.typed? = some typed ∧ firstRow.undecoded.plain? = some plain ∧
      world.TypedAs 0 (plain.operation []) (typed.operation [])) ∧
    (∃ issued plain, listens.issued? = some issued ∧ listens.plain? = some plain ∧
      world.IssuedAs 0 (plain.operation [.preferRw])
        (world.requestAll 0 [issued.operation [.preferRw]]) ∧
      busy.IssuedAs 0 (plain.operation [.preferRw])
        (busy.answerAll 0 [issued.operation [.preferRw]])) ∧
    ∃ typed, firstRow.typed? = some typed ∧
      world.requestTyped 0 (typed.operation [.rw, .rw]) .anything =
        (world, .error (.error .tooManyModes)) := by
  intro world busy firstRow listens
  obtain ⟨plainRow, hplainRow, hrow⟩ :=
    ((methods_agree world 0 firstRow []).1 (by decide)).1 _ rfl
  obtain ⟨plainListens, hplainListens, -, -, hlistens⟩ :=
    ((methods_agree world 0 listens [.preferRw]).1 (by decide)).2 _ rfl
  obtain ⟨plainBusy, hplainBusy, hbusy, -⟩ :=
    ((methods_agree busy 0 listens [.preferRw]).1 (by decide)).2 _ rfl
  have hlong := ((methods_agree world 0 firstRow [.rw, .rw]).2 (by decide)).2.1 _ rfl .anything
  cases hplainListens
  cases hplainBusy
  exact ⟨⟨_, plainRow, rfl, hplainRow, hrow⟩, ⟨_, _, rfl, rfl, hlistens idle_recoveredRun, hbusy⟩,
    _, rfl, hlong⟩

end World

end ReplicaPool
