import ReplicaPool.World.Upkeep

/-!
# Time

Upkeep happens only while its world waits. `World.settle` does all the work that is due now, and
`World.passUntil` lets time go by, from one due timer to the next.
-/

namespace ReplicaPool

namespace World

/-- More pieces of upkeep than one instant ever asks for. -/
def stepLimit : Nat := 0x1000000

def runUpkeep (service : ServiceId) : Nat → World → World
  | 0, world => world
  | fuel + 1, world =>
      match world.stepUpkeep service with
      | some world => runUpkeep service fuel world
      | none => world

def settle (world : World) : World :=
  (List.range world.services.length).foldl
    (fun world service => runUpkeep service stepLimit world) world

def earlier? : Option Nat → Option Nat → Option Nat
  | some a, some b => some (min a b)
  | some a, none => some a
  | none, time => time

def nextWake? (world : World) : Option Nat :=
  (world.services.map world.wakeTime?).foldl earlier? none

/-- Lets time pass from `time` until just before `target`, and then moves the clock there: what is due
at `target` itself is still to be done. -/
def passUntil (world : World) (time target : Nat) : World :=
  let world := { world with now := time }.settle
  match world.nextWake? with
  | some due =>
      if time < due ∧ due < target then passUntil world due target
      else { world with now := target }
  | none => { world with now := target }
termination_by target - time

/-- Waits for something that takes a while; nothing happens at all if it takes no time. -/
def await (world : World) (duration : Nat) : World :=
  if duration = 0 then world else world.passUntil world.now (world.now + duration)

/-- Sleeps: what is due now is done first, and what is due at the end is done last. -/
def sleep (world : World) (duration : Nat) : World :=
  (world.passUntil world.now (world.now + duration)).settle

end World

end ReplicaPool
