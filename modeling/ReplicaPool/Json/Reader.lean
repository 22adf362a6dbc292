import ReplicaPool.Json.Basic
import ReplicaPool.Number.Digits

/-!
# Reading JSON text

`Json.read?` accepts one JSON value with blanks around its tokens. A whole literal between `-2⁶³`
and `2⁶⁴ - 1` is an integer; any other number, and `-0`, is the nearest double.
-/

namespace ReplicaPool.Json

def isBlank (c : Char) : Bool :=
  c = ' ' || c = '\n' || c = '\r' || c = '\t'

def skipBlanks (input : List Char) : List Char :=
  input.dropWhile isBlank

def readUnit? : List Char → Option (Nat × List Char)
  | a :: b :: c :: d :: rest => do
      let a ← hexValue? a
      let b ← hexValue? b
      let c ← hexValue? c
      let d ← hexValue? d
      return (((a * 16 + b) * 16 + c) * 16 + d, rest)
  | _ => none

/-- The character after `\u`, written as one unit or as a pair of surrogates. -/
def readCodePoint? (input : List Char) : Option (Char × List Char) := do
  let (high, rest) ← readUnit? input
  if 0xD800 ≤ high ∧ high < 0xDC00 then
    match rest with
    | '\\' :: 'u' :: rest =>
        let (low, rest) ← readUnit? rest
        if 0xDC00 ≤ low ∧ low < 0xE000 then
          return (Char.ofNat (0x10000 + (high - 0xD800) * 0x400 + (low - 0xDC00)), rest)
        else none
    | _ => none
  else if 0xDC00 ≤ high ∧ high < 0xE000 then none
  else return (Char.ofNat high, rest)

def readString? : Nat → List Char → List Char → Option (String × List Char)
  | 0, _, _ => none
  | fuel + 1, reversed, input =>
      match input with
      | '"' :: rest => some (String.ofList reversed.reverse, rest)
      | '\\' :: 'u' :: rest => do
          let (c, rest) ← readCodePoint? rest
          readString? fuel (c :: reversed) rest
      | '\\' :: c :: rest => do
          let meaning ← [('"', '"'), ('\\', '\\'), ('/', '/'), ('b', '\x08'), ('f', '\x0c'),
            ('n', '\n'), ('r', '\r'), ('t', '\t')].lookup c
          readString? fuel (meaning :: reversed) rest
      | c :: rest => if c.toNat < 0x20 then none else readString? fuel (c :: reversed) rest
      | [] => none

def readFraction? : List Char → Option (Option (List Char) × List Char)
  | '.' :: rest =>
      let digits := rest.takeWhile Char.isDigit
      if digits.isEmpty then none else some (some digits, rest.dropWhile Char.isDigit)
  | input => some (none, input)

def readExponent? : List Char → Option (Option Int × List Char)
  | c :: rest =>
      if c = 'e' ∨ c = 'E' then
        let (negative, rest) :=
          match rest with
          | '-' :: rest => (true, rest)
          | '+' :: rest => (false, rest)
          | rest => (false, rest)
        let digits := rest.takeWhile Char.isDigit
        if digits.isEmpty then none
        else
          let value : Int := digitsValue 10 digits
          some (some (if negative then -value else value), rest.dropWhile Char.isDigit)
      else some (none, c :: rest)
  | [] => some (none, [])

def ofNumeral? (negative : Bool) (whole : List Char) (fraction : Option (List Char))
    (exponent : Option Int) : Option Json :=
  let value : Int := digitsValue 10 whole
  let signed := if negative then -value else value
  if fraction.isNone && exponent.isNone && !(negative && value == 0) && isExact signed then
    some (.integer signed)
  else
    let places := fraction.getD []
    (Double.ofDecimal? negative (digitsValue 10 (whole ++ places))
      (exponent.getD 0 - places.length)).map .double

def readNumber? (input : List Char) : Option (Json × List Char) := do
  let (negative, input) :=
    match input with
    | '-' :: rest => (true, rest)
    | input => (false, input)
  let whole := input.takeWhile Char.isDigit
  let rest := input.dropWhile Char.isDigit
  if whole.isEmpty || (whole.head? == some '0' && whole.length > 1) then none
  else
    let (fraction, rest) ← readFraction? rest
    let (exponent, rest) ← readExponent? rest
    let value ← ofNumeral? negative whole fraction exponent
    return (value, rest)

mutual

def readValue? : Nat → List Char → Option (Json × List Char)
  | 0, _ => none
  | fuel + 1, input =>
      match skipBlanks input with
      | 'n' :: 'u' :: 'l' :: 'l' :: rest => some (.null, rest)
      | 't' :: 'r' :: 'u' :: 'e' :: rest => some (.bool true, rest)
      | 'f' :: 'a' :: 'l' :: 's' :: 'e' :: rest => some (.bool false, rest)
      | '"' :: rest => (readString? (rest.length + 1) [] rest).map fun (text, rest) =>
          (.string text, rest)
      | '[' :: rest =>
          match skipBlanks rest with
          | ']' :: rest => some (.array [], rest)
          | rest => (readElements? fuel rest).map fun (elements, rest) => (.array elements, rest)
      | '\x7b' :: rest =>
          match skipBlanks rest with
          | '\x7d' :: rest => some (.object [], rest)
          | rest => (readFields? fuel rest).map fun (fields, rest) => (ofFields fields, rest)
      | input => readNumber? input

def readElements? : Nat → List Char → Option (List Json × List Char)
  | 0, _ => none
  | fuel + 1, input => do
      let (element, rest) ← readValue? fuel input
      match skipBlanks rest with
      | ',' :: rest =>
          let (elements, rest) ← readElements? fuel rest
          return (element :: elements, rest)
      | ']' :: rest => return ([element], rest)
      | _ => none

def readFields? : Nat → List Char → Option (List (String × Json) × List Char)
  | 0, _ => none
  | fuel + 1, input =>
      match skipBlanks input with
      | '"' :: rest => do
          let (name, rest) ← readString? (rest.length + 1) [] rest
          match skipBlanks rest with
          | ':' :: rest =>
              let (value, rest) ← readValue? fuel rest
              match skipBlanks rest with
              | ',' :: rest =>
                  let (fields, rest) ← readFields? fuel rest
                  return ((name, value) :: fields, rest)
              | '\x7d' :: rest => return ([(name, value)], rest)
              | _ => none
          | _ => none
      | _ => none

end

/-- The value that a text holds, if it holds exactly one. -/
def read? (text : String) : Option Json :=
  let input := text.toList
  match readValue? (input.length + 1) input with
  | some (value, rest) => if (skipBlanks rest).isEmpty then some value else none
  | none => none

end ReplicaPool.Json
