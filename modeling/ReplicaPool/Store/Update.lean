import ReplicaPool.Error
import ReplicaPool.Store.Key

/-!
# Update operations

An operation is an array of operator, field number and argument. `applyOperations` applies a list of
them to the fields of a row, one after the other; the first field is the primary key and cannot be
changed.
-/

namespace ReplicaPool

inductive Rejection where
  | notATuple
  | duplicateKey (space : String)
  | operationsNotArray
  | rowNotArray
  | malformedOperation (operation : Json)
  | invalidField
  | notWhole
  | fieldOutOfRange (field : Nat)
  | unsupportedOperator (operator : String)
deriving Inhabited

namespace Rejection

def code : Rejection → Nat
  | .duplicateKey _ => 3
  | .unsupportedOperator _ => 5
  | _ => 1

def message : Rejection → String
  | .notATuple => "tuple must be a non-empty array"
  | .duplicateKey space =>
      "Duplicate key exists in unique index 'primary' in space '" ++ space ++ "'"
  | .operationsNotArray => "update ops must be an array"
  | .rowNotArray => "tuple must be an array"
  | .malformedOperation operation => "malformed update operation: " ++ operation.text
  | .invalidField => "invalid field number"
  | .notWhole => "arithmetic on a non-integer field"
  | .fieldOutOfRange field => "field " ++ toString field ++ " is out of range"
  | .unsupportedOperator operator => "unsupported update operator '" ++ operator ++ "'"

def toConnectionError (reason : Rejection) : ConnectionError :=
  .server reason.code reason.message

end Rejection

def Overflow.combine : Overflow → Int → Int → Int
  | .add, left, right => left + right
  | .subtract, left, right => left - right

/-- Adds to or subtracts from a field that exists. Both numbers have to be signed 64-bit words, and
so has the result. -/
def applyArithmetic (kind : Overflow) (fields : List Json) (field : Nat) (current argument : Json) :
    Except (Failure Rejection) (List Json) :=
  match current.signed64?, argument.signed64? with
  | some left, some right =>
      let result := kind.combine left right
      if isSigned 64 result then .ok (fields.set field (.integer result))
      else .error (.crash kind)
  | _, _ => .error (.error .notWhole)

def applyOperator (operator : String) (fields : List Json) (field : Nat) (argument : Json) :
    Except (Failure Rejection) (List Json) :=
  match operator with
  | "=" =>
      if field < fields.length then .ok (fields.set field argument)
      else if field = fields.length then .ok (fields ++ [argument])
      else .error (.error (.fieldOutOfRange field))
  | "+" =>
      match fields[field]? with
      | some current => applyArithmetic .add fields field current argument
      | none => .error (.error (.fieldOutOfRange field))
  | "-" =>
      match fields[field]? with
      | some current => applyArithmetic .subtract fields field current argument
      | none => .error (.error (.fieldOutOfRange field))
  | other => .error (.error (.unsupportedOperator other))

def applyOperation (fields : List Json) (operation : Json) :
    Except (Failure Rejection) (List Json) :=
  match operation with
  | .array [.string operator, .integer field, argument] =>
      if 0 < field then applyOperator operator fields field.toNat argument
      else .error (.error .invalidField)
  | .array [.string _, .double _, _] => .error (.error .invalidField)
  | _ => .error (.error (.malformedOperation operation))

/-- Applies operations one after the other; the first that fails decides. -/
def applyOperations : List Json → List Json → Except (Failure Rejection) (List Json)
  | fields, [] => .ok fields
  | fields, operation :: rest => do
      let fields ← applyOperation fields operation
      applyOperations fields rest

def updateRow (row operations : Json) : Except (Failure Rejection) Json :=
  match operations with
  | .array operations =>
      match row with
      | .array fields => (applyOperations fields operations).map .array
      | _ => .error (.error .rowNotArray)
  | _ => .error (.error .operationsNotArray)

end ReplicaPool
