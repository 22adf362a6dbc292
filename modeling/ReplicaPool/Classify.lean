import ReplicaPool.Error
import ReplicaPool.Request

/-!
# Classification

An instance reports whether it is read-only. `Role.ofReply` reads its role from the report, and
`classifyWithin` bounds the time the report may take.
-/

namespace ReplicaPool

/-- The role an instance reports: its first row has to be an object with a boolean field `ro`. -/
def Role.ofReply : List Json → Except PoolError Role
  | [] => .error (.incorrectResponse "empty box.info reply")
  | info :: _ =>
      match info.field? "ro" with
      | some (.bool readOnly) => .ok (Role.ofReadOnly readOnly)
      | some other => .error (.incorrectResponse ("unexpected ro flag: " ++ other.text))
      | none => .error (.incorrectResponse "box.info reply has no ro flag")

/-- A failure of a request as an error of the pool; one that ended abruptly is internal. -/
def PoolError.ofFailure : Failure ConnectionError → PoolError
  | .error cause => .connection cause
  | .crash overflow => .internal overflow.message

def Role.ofOutcome : Except (Failure ConnectionError) (List Json) → Except PoolError Role
  | .ok rows => Role.ofReply rows
  | .error failure => .error (.ofFailure failure)

def PoolError.classifyTimeout (addr : String) : PoolError :=
  .timeout (introspection ++ " on " ++ addr)

def PoolError.dialTimeout (addr : String) : PoolError :=
  .timeout ("connect to " ++ addr)

/-- How long a call runs under a bound, or `none` if the bound cuts it short. A call that takes exactly
as long as allowed still succeeds. -/
def waitWithin (limit duration : Nat) : Option Nat :=
  if duration ≤ limit then some duration else none

def classifyWithin (limit : Option Nat) (addr : String) (delay : Nat)
    (outcome : Except (Failure ConnectionError) (List Json)) : Nat × Except PoolError Role :=
  match limit with
  | none => (delay, Role.ofOutcome outcome)
  | some limit =>
      match waitWithin limit delay with
      | some taken => (taken, Role.ofOutcome outcome)
      | none => (limit, .error (.classifyTimeout addr))

end ReplicaPool
