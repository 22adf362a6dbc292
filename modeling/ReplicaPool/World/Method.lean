import ReplicaPool.World.Operation

/-!
# Methods

What callers do with a pool, in three families. A plain method gives the answer of the instance, a typed
one decodes its rows, and an issued one is awaited later. Each method has a mode of its own for callers who
give none, and builds its own request.
-/

namespace ReplicaPool

inductive Method where
  | ping
  | select (space index : Json) (offset limit : Nat) (iterator : Iterator) (key : Json)
  /-- At most one row with a key. -/
  | get (space index key : Json)
  | insert (space tuple : Json)
  | replace (space tuple : Json)
  | delete (space index key : Json)
  | update (space index key operations : Json)
  | upsert (space tuple operations : Json)
  | call (function : String) (arguments : Json)
  | call17 (function : String) (arguments : Json)
  | eval (expression : String) (arguments : Json)
deriving Inhabited

namespace Method

def plain? : Method → Option Plan
  | .ping => some ⟨.preferRo, .ping⟩
  | .select space index offset limit iterator key =>
      some ⟨.preferRo, .select space index offset limit iterator key⟩
  | .get .. => none
  | .insert space tuple => some ⟨.rw, .insert space tuple⟩
  | .replace space tuple => some ⟨.rw, .replace space tuple⟩
  | .delete space index key => some ⟨.rw, .delete space index key⟩
  | .update space index key operations => some ⟨.rw, .update space index key operations⟩
  | .upsert space tuple operations => some ⟨.rw, .upsert space tuple operations⟩
  | .call function arguments => some ⟨.rw, .call function arguments⟩
  | .call17 function arguments => some ⟨.rw, .call17 function arguments⟩
  | .eval expression arguments => some ⟨.rw, .eval expression arguments⟩

def typed? : Method → Option Plan
  | .ping => none
  | .select space index offset limit iterator key =>
      some ⟨.preferRo, .select space index offset limit iterator key⟩
  | .get space index key => some ⟨.preferRo, .select space index 0 1 .eq key⟩
  | .insert space tuple => some ⟨.rw, .insert space tuple⟩
  | .replace space tuple => some ⟨.rw, .replace space tuple⟩
  | .delete space index key => some ⟨.rw, .delete space index key⟩
  | .update space index key operations => some ⟨.rw, .update space index key operations⟩
  | .upsert .. => none
  | .call function arguments => some ⟨.rw, .call function arguments⟩
  | .call17 function arguments => some ⟨.rw, .call17 function arguments⟩
  | .eval expression arguments => some ⟨.rw, .eval expression arguments⟩

def issued? : Method → Option Plan
  | .ping => none
  | .select space index offset limit iterator key =>
      some ⟨.preferRo, .select space index offset limit iterator key⟩
  | .get .. => none
  | .insert space tuple => some ⟨.rw, .insert space tuple⟩
  | .replace space tuple => some ⟨.rw, .replace space tuple⟩
  | .delete space index key => some ⟨.rw, .delete space index key⟩
  | .update space index key operations => some ⟨.rw, .update space index key operations⟩
  | .upsert space tuple operations => some ⟨.rw, .upsert space tuple operations⟩
  | .call function arguments => some ⟨.rw, .call function arguments⟩
  | .call17 function arguments => some ⟨.rw, .call17 function arguments⟩
  | .eval expression arguments => some ⟨.rw, .eval expression arguments⟩

end Method

end ReplicaPool
