import ReplicaPool.Number.Digits
import ReplicaPool.Pool.Options
import ReplicaPool.Text.Blank

/-!
# Configurations

A configuration names the instances of a pool, its intervals and how it logs. `Config.validate` finds
the first fault in the order of the fields.
-/

namespace ReplicaPool

structure PoolConfig where
  /-- Instance addresses, each a host and a port. -/
  addrs : List String := ["127.0.0.1:3301"]
  /-- Milliseconds between two probes of an instance. -/
  checkIntervalMs : Nat := 1000
  discoveryFunction : Option String := none
  /-- Seconds between two discoveries; zero stands for the default. -/
  discoveryIntervalSec : Nat := 60
  /-- Milliseconds that a dial or a probe may take. -/
  probeTimeoutMs : Nat := 5000
deriving DecidableEq, Repr, Inhabited

structure LoggingConfig where
  level : String := "info"
  format : String := "text"
deriving DecidableEq, Repr, Inhabited

structure Config where
  pool : PoolConfig := {}
  logging : LoggingConfig := {}
deriving DecidableEq, Repr, Inhabited

def PoolConfig.toOptions (config : PoolConfig) : PoolOptions :=
  { checkInterval := config.checkIntervalMs
    discoveryFunction := config.discoveryFunction
    discoveryInterval := PoolOptions.orDefault (config.discoveryIntervalSec * 1000) 60000
    probeTimeout := config.probeTimeoutMs }

/-- The host and the port of an address, on both sides of its last colon. -/
def splitAddr? (addr : List Char) : Option (List Char × List Char) :=
  let reversed := addr.reverse
  match reversed.dropWhile (· != ':') with
  | _ :: host => some (host.reverse, (reversed.takeWhile (· != ':')).reverse)
  | [] => none

/-- Whether an address has a host and a port, which is an unsigned 16-bit word. -/
def isAddr (addr : String) : Bool :=
  match splitAddr? addr.toList with
  | some (host, port) => !host.isEmpty && (unsignedWord? 16 port).isSome
  | none => false

def isBlankText (text : String) : Bool :=
  (Text.trim text).isEmpty

namespace Config

def logLevels : List String := ["error", "warn", "info", "debug", "trace"]

def logFormats : List String := ["json", "text"]

def validate (config : Config) : Except ConfigError Unit :=
  if config.pool.addrs.isEmpty then .error .emptyAddrs
  else
    match config.pool.addrs.find? fun addr => !isAddr addr with
    | some addr => .error (.validation ("Invalid instance address: " ++ addr))
    | none =>
        if config.pool.checkIntervalMs = 0 then .error .wrongCheckTimeout
        else if config.pool.probeTimeoutMs = 0 then
          .error (.validation "probe_timeout_ms must be greater than 0")
        else if config.pool.discoveryFunction.any isBlankText then
          .error (.validation "discovery_function cannot be blank")
        else if !logLevels.contains config.logging.level then
          .error (.validation ("Invalid log level: " ++ config.logging.level))
        else if !logFormats.contains config.logging.format then
          .error (.validation ("Invalid log format: " ++ config.logging.format))
        else .ok ()

def ofProfile (profile : String) : Except ConfigError Config :=
  match profile with
  | "standalone" => .ok {}
  | "cluster" =>
      .ok { pool := {
        addrs := ["10.0.1.10:3301", "10.0.1.11:3301", "10.0.1.12:3301"]
        discoveryFunction := some "get_cluster_nodes" } }
  | _ => .error (.validation "Profile must be 'standalone' or 'cluster'")

end Config

end ReplicaPool
