import ReplicaPool.Mode
import ReplicaPool.Shape

/-!
# Errors

Configuration errors stop a pool from being built, routing errors go away once upkeep heals the
topology, and connection errors come from a single instance. Each cause has one message.
-/

namespace ReplicaPool

inductive ConfigError where
  | emptyAddrs
  | wrongCheckTimeout
  | io (reason : String)
  | parse (reason : String)
  | serialize (reason : String)
  | validation (reason : String)
deriving DecidableEq, Repr, Inhabited

def ConfigError.message : ConfigError → String
  | .emptyAddrs => "addrs should not be empty"
  | .wrongCheckTimeout => "wrong check timeout, must be greater than 0"
  | .io reason => "IO error: " ++ reason
  | .parse reason => "Parse error: " ++ reason
  | .serialize reason => "Serialize error: " ++ reason
  | .validation reason => "Validation error: " ++ reason

inductive ConnectionError where
  | network (reason : String)
  | refused (addr : String)
  | closed (addr : String)
  /-- The instance's own answer. -/
  | server (code : Nat) (reason : String)
  | client (reason : String)
deriving DecidableEq, Repr, Inhabited

namespace ConnectionError

def message : ConnectionError → String
  | .network reason => "Network error: " ++ reason
  | .refused addr => "connection to " ++ addr ++ " refused"
  | .closed addr => "connection to " ++ addr ++ " is closed"
  | .server code reason => "Server error " ++ toString code ++ ": " ++ reason
  | .client reason => "Client error: " ++ reason

/-- Whether trying again may help: an answer of the server stays what it is. -/
def isRecoverable : ConnectionError → Bool
  | .server _ _ | .client _ => false
  | _ => true

end ConnectionError

/-- How much attention an error needs, the most urgent first. -/
inductive Severity where
  | critical
  | error
  | warning
  | info
deriving DecidableEq, Repr, Inhabited

namespace Severity

def name : Severity → String
  | .critical => "CRITICAL"
  | .error => "ERROR"
  | .warning => "WARNING"
  | .info => "INFO"

def rank : Severity → Nat
  | .critical => 0
  | .error => 1
  | .warning => 2
  | .info => 3

end Severity

inductive PoolError where
  | config (cause : ConfigError)
  | noConnection
  | tooManyModes
  | noRwInstance
  | noHealthyInstance
  /-- The chosen subpool has members, but none is connected. -/
  | noAliveInstance (role : Role)
  | incorrectResponse (reason : String)
  | closed
  | connection (cause : ConnectionError)
  | decode (cause : DecodeError)
  | timeout (operation : String)
  | internal (reason : String)
deriving Inhabited

namespace PoolError

def message : PoolError → String
  | .config cause => "Configuration error: " ++ cause.message
  | .noConnection => "no active connections"
  | .tooManyModes => "too many arguments"
  | .noRwInstance => "Can't find rw instance in pool"
  | .noHealthyInstance => "Can't find healthy instance in pool"
  | .noAliveInstance role => "Can't find alive " ++ role.name ++ " instance in pool"
  | .incorrectResponse reason => "Incorrect response format: " ++ reason
  | .closed => "connection pool is closed"
  | .connection cause => "Connection error: " ++ cause.message
  | .decode cause => "Decode error: " ++ cause.message
  | .timeout operation => "Operation timed out: " ++ operation
  | .internal reason => "Internal error: " ++ reason

def isRecoverable : PoolError → Bool
  | .noRwInstance | .noHealthyInstance | .noAliveInstance _ | .timeout _ => true
  | .connection cause => cause.isRecoverable
  | _ => false

def severity : PoolError → Severity
  | .config _ | .internal _ | .noConnection => .critical
  | .connection _ | .noAliveInstance _ | .timeout _ => .warning
  | .incorrectResponse _ => .info
  | _ => .error

end PoolError

/-- An addition or subtraction on a stored field that leaves the signed 64-bit range. -/
inductive Overflow where
  | add
  | subtract
deriving DecidableEq, Repr, Inhabited

def Overflow.message : Overflow → String
  | .add => "attempt to add with overflow"
  | .subtract => "attempt to subtract with overflow"

/-- How a request ends without an answer: by an error, or abruptly in the middle of arithmetic. -/
inductive Failure (ε : Type) where
  | error (cause : ε)
  | crash (overflow : Overflow)
deriving Inhabited

def Failure.map {ε δ : Type} (wrap : ε → δ) : Failure ε → Failure δ
  | .error cause => .error (wrap cause)
  | .crash overflow => .crash overflow

end ReplicaPool
