/-!
# Finite doubles

A finite binary64 number is a sign and a magnitude code. Codes count the nonnegative doubles
upwards from zero, so `Double.rank` orders doubles as the numbers they stand for. `nearestCode`
rounds a ratio to the nearest code, a tie going to the even one.
-/

namespace ReplicaPool

/-- The quotient rounded to the nearest integer, a half going to the even neighbour. -/
def roundHalfEven (numerator denominator : Nat) : Nat :=
  let quotient := numerator / denominator
  let twice := 2 * (numerator % denominator)
  if twice < denominator then quotient
  else if denominator < twice then quotient + 1
  else quotient + quotient % 2

/-- How many codes there are from one power of two to the next: `2⁵²`. -/
def octave : Nat := 0x10000000000000

/-- Every code from this one on would stand for a number beyond the finite doubles. -/
def codeLimit : Nat := 2047 * octave

/-- The code nearest to a ratio, measured in units of `2⁻¹⁰⁷⁴`: codes below `2⁵³` count units,
and every further octave doubles the step. -/
def nearestCode (numerator denominator : Nat) : Nat :=
  let units := numerator <<< 1074
  let doublings := (units / denominator).log2 - 52
  doublings * octave + roundHalfEven units (denominator <<< doublings)

structure Double where
  negative : Bool
  code : Nat
  code_lt : code < codeLimit
deriving DecidableEq

namespace Double

def zero : Double := ⟨false, 0, by decide⟩

instance : Inhabited Double := ⟨zero⟩

/-- The position of a double among all doubles; both zeros have position zero. -/
def rank (number : Double) : Int :=
  if number.negative then -(number.code : Int) else number.code

/-- How often the unit `2⁻¹⁰⁷⁴` is doubled to give the step at this double. -/
def doublings (number : Double) : Nat :=
  number.code / octave - 1

/-- The magnitude in steps: it is `significand * 2 ^ doublings` units of `2⁻¹⁰⁷⁴`. -/
def significand (number : Double) : Nat :=
  if number.code < octave then number.code else number.code % octave + octave

def ofRatio? (negative : Bool) (numerator denominator : Nat) : Option Double :=
  let code := nearestCode numerator denominator
  if bounded : code < codeLimit then some ⟨negative, code, bounded⟩ else none

def ofInt? (value : Int) : Option Double :=
  ofRatio? (value < 0) value.natAbs 1

def ofDecimal? (negative : Bool) (digits : Nat) (exponent : Int) : Option Double :=
  if digits = 0 then some ⟨negative, 0, by decide⟩
  else if 400 < exponent then none
  else if exponent + digits.log2 < -400 then some ⟨negative, 0, by decide⟩
  else if 0 ≤ exponent then ofRatio? negative (digits * Nat.pow 10 exponent.toNat) 1
  else ofRatio? negative digits (Nat.pow 10 (-exponent).toNat)

end Double

def integerRank (value : Int) : Int :=
  let code := nearestCode value.natAbs 1
  if value < 0 then -(code : Int) else code

end ReplicaPool
