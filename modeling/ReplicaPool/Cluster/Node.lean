import ReplicaPool.Store.Edit
import ReplicaPool.Text.Blank

/-!
# Nodes

A node is one instance: its role, whether it runs, the state of its network link and its data.
`Node.handle` answers a request as the node does when it arrives.
-/

namespace ReplicaPool

structure Node where
  addr : String
  readOnly : Bool
  running : Bool := true
  linkUp : Bool := true
  store : Store := .empty
deriving Inhabited

abbrev Functions := List (String × List Json)

namespace Node

def report (node : Node) : Json :=
  .object [("listen", .string node.addr), ("ro", .bool node.readOnly),
    ("status", .string "running")]

def readOnlyError : ConnectionError :=
  .server 7 "Can't modify data because this instance is in read-only mode."

def call (node : Node) (functions : Functions) (function : String) :
    Except ConnectionError (List Json) :=
  if function = introspection then .ok [node.report]
  else
    match functions.lookup function with
    | some results => .ok results
    | none => .error (.server 33 ("Procedure '" ++ function ++ "' is not defined"))

def eval (node : Node) (expression : String) : Except ConnectionError (List Json) :=
  match Text.trim expression with
  | "return box.cfg.listen" => .ok [.string node.addr]
  | "return box.info.ro" => .ok [.bool node.readOnly]
  | "return" | "" => .ok []
  | other => .error (.server 5 ("expression is not supported: " ++ other))

def asArray : Json → Json
  | .array elements => .array elements
  | other => .array [other]

def storeCommand? : Request → Option Store.Command
  | .select space _ offset limit iterator key => some (.select space key offset limit iterator)
  | .insert space tuple => some (.insert space tuple)
  | .replace space tuple => some (.replace space tuple)
  | .delete space _ key => some (.delete space key)
  | .update space _ key operations => some (.update space key operations)
  | .upsert space tuple operations => some (.upsert space tuple operations)
  | _ => none

def answer (node : Node) (functions : Functions) : Request → Except ConnectionError (List Json)
  | .call function _ => (node.call functions function).map fun rows => rows.map asArray
  | .call17 function _ => node.call functions function
  | .eval expression _ => node.eval expression
  | _ => .ok []

/-- Answers a request; a write is turned down while the node is read-only. -/
def handle (node : Node) (functions : Functions) (request : Request) :
    Node × Except (Failure ConnectionError) (List Json) :=
  if request.isWrite && node.readOnly then (node, .error (.error readOnlyError))
  else
    match storeCommand? request with
    | some command =>
        let (store, outcome) := node.store.perform command
        match outcome with
        | .ok answer => ({ node with store }, .ok answer.data)
        | .error failure =>
            ({ node with store }, .error (failure.map Rejection.toConnectionError))
    | none =>
        match node.answer functions request with
        | .ok rows => (node, .ok rows)
        | .error cause => (node, .error (.error cause))

end Node

end ReplicaPool
