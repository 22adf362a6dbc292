import ReplicaPool.Number.Word

/-!
# Digits

The values of digits, and of runs of digits, in a base up to sixteen.
-/

namespace ReplicaPool

def hexValue? (c : Char) : Option Nat :=
  if '0' ≤ c ∧ c ≤ '9' then some (c.toNat - '0'.toNat)
  else if 'a' ≤ c ∧ c ≤ 'f' then some (c.toNat - 'a'.toNat + 10)
  else if 'A' ≤ c ∧ c ≤ 'F' then some (c.toNat - 'A'.toNat + 10)
  else none

def isBaseDigit (base : Nat) (c : Char) : Bool :=
  match hexValue? c with
  | some value => decide (value < base)
  | none => false

def digitsValue (base : Nat) (digits : List Char) : Nat :=
  digits.foldl (fun value c => base * value + (hexValue? c).getD 0) 0

/-- Decimal digits, behind at most one plus sign, that denote an unsigned word. -/
def unsignedWord? (bits : Nat) (text : List Char) : Option Nat :=
  let digits :=
    match text with
    | '+' :: rest => rest
    | text => text
  if digits.isEmpty || !digits.all (isBaseDigit 10) then none
  else if digitsValue 10 digits < wordCount bits then some (digitsValue 10 digits)
  else none

end ReplicaPool
