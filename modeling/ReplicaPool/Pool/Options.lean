import ReplicaPool.Error

/-!
# Pool options

Intervals are in milliseconds. A pool is only built from options that `PoolOptions.validated` accepts.
-/

namespace ReplicaPool

structure PoolOptions where
  /-- How often every instance is probed for its role. -/
  checkInterval : Nat := 1000
  discoveryFunction : Option String := none
  /-- How often the discovery function is called. -/
  discoveryInterval : Nat := 60000
  /-- Bound for every dial and every probe. -/
  probeTimeout : Nat := 5000
deriving DecidableEq, Repr, Inhabited

namespace PoolOptions

def orDefault (value fallback : Nat) : Nat :=
  if value = 0 then fallback else value

/-- The options a pool works with: the check interval must be positive, zero stands for the default
of the other intervals, and an empty name for no discovery. -/
def validated (options : PoolOptions) : Except ConfigError PoolOptions :=
  if options.checkInterval = 0 then .error .wrongCheckTimeout
  else
    .ok { options with
      discoveryInterval := orDefault options.discoveryInterval 60000
      probeTimeout := orDefault options.probeTimeout 5000
      discoveryFunction := options.discoveryFunction.filter fun name => !name.isEmpty }

end PoolOptions

end ReplicaPool
