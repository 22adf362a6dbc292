import ReplicaPool.Number.Digits
import ReplicaPool.Number.Double

/-!
# TOML literals

The written forms of strings and of the values that are written without brackets or quotes. Each
reader takes the characters from the literal on and gives what is left behind it.
-/

namespace ReplicaPool.Toml

def isBlank (c : Char) : Bool :=
  c = ' ' || c = '\t'

/-- A character that needs no escape anywhere: neither a control character nor U+007F. -/
def isPlain (c : Char) : Bool :=
  c = '\t' || (decide (0x20 ≤ c.toNat) && c.toNat != 0x7F)

def skipBlanks (input : List Char) : List Char :=
  input.dropWhile isBlank

def scalar? (digits : List Char) : Option Char := do
  let value ← digits.foldlM (fun value c => do return 16 * value + (← hexValue? c)) 0
  if value.isValidChar then some (Char.ofNat value) else none

def shortEscapes : List (Char × Char) :=
  [('b', '\x08'), ('t', '\t'), ('n', '\n'), ('f', '\x0c'), ('r', '\r'), ('"', '"'), ('\\', '\\')]

def consTo (c : Char) : Option (List Char × List Char) → Option (List Char × List Char)
  | some (text, rest) => some (c :: text, rest)
  | none => none

def readBasic? : List Char → Option (List Char × List Char)
  | '"' :: rest => some ([], rest)
  | '\\' :: 'u' :: a :: b :: c :: d :: rest =>
      match scalar? [a, b, c, d] with
      | some meaning => consTo meaning (readBasic? rest)
      | none => none
  | '\\' :: 'U' :: a :: b :: c :: d :: e :: f :: g :: h :: rest =>
      match scalar? [a, b, c, d, e, f, g, h] with
      | some meaning => consTo meaning (readBasic? rest)
      | none => none
  | '\\' :: c :: rest =>
      match shortEscapes.lookup c with
      | some meaning => consTo meaning (readBasic? rest)
      | none => none
  | c :: rest => if isPlain c then consTo c (readBasic? rest) else none
  | [] => none

def readLiteral? : List Char → Option (List Char × List Char)
  | '\'' :: rest => some ([], rest)
  | c :: rest => if isPlain c then consTo c (readLiteral? rest) else none
  | [] => none

def startsLine : List Char → Bool
  | '\n' :: _ => true
  | '\r' :: '\n' :: _ => true
  | _ => false

/-- A basic string of several lines after its opening quotes. While `skipping`, blanks and line ends
are passed over, as after a backslash at the end of a line. -/
def readLines? : Bool → List Char → Option (List Char × List Char)
  | skipping, '\r' :: '\n' :: rest =>
      if skipping then readLines? true rest else consTo '\n' (readLines? false rest)
  | skipping, '\n' :: rest =>
      if skipping then readLines? true rest else consTo '\n' (readLines? false rest)
  | _, '"' :: '"' :: '"' :: '"' :: '"' :: rest => some (['"', '"'], rest)
  | _, '"' :: '"' :: '"' :: '"' :: rest => some (['"'], rest)
  | _, '"' :: '"' :: '"' :: rest => some ([], rest)
  | _, '\\' :: 'u' :: a :: b :: c :: d :: rest =>
      match scalar? [a, b, c, d] with
      | some meaning => consTo meaning (readLines? false rest)
      | none => none
  | _, '\\' :: 'U' :: a :: b :: c :: d :: e :: f :: g :: h :: rest =>
      match scalar? [a, b, c, d, e, f, g, h] with
      | some meaning => consTo meaning (readLines? false rest)
      | none => none
  | _, '\\' :: c :: rest =>
      if startsLine (skipBlanks (c :: rest)) then readLines? true (c :: rest)
      else
        match shortEscapes.lookup c with
        | some meaning => consTo meaning (readLines? false rest)
        | none => none
  | skipping, c :: rest =>
      if skipping && isBlank c then readLines? true rest
      else if isPlain c then consTo c (readLines? false rest)
      else none
  | _, [] => none

def readLiteralLines? : List Char → Option (List Char × List Char)
  | '\r' :: '\n' :: rest => consTo '\n' (readLiteralLines? rest)
  | '\n' :: rest => consTo '\n' (readLiteralLines? rest)
  | '\'' :: '\'' :: '\'' :: '\'' :: '\'' :: rest => some (['\'', '\''], rest)
  | '\'' :: '\'' :: '\'' :: '\'' :: rest => some (['\''], rest)
  | '\'' :: '\'' :: '\'' :: rest => some ([], rest)
  | c :: rest => if isPlain c then consTo c (readLiteralLines? rest) else none
  | [] => none

def skipLineEnd : List Char → List Char
  | '\n' :: rest => rest
  | '\r' :: '\n' :: rest => rest
  | input => input

def readString? : List Char → Option (List Char × List Char)
  | '"' :: '"' :: '"' :: rest => readLines? false (skipLineEnd rest)
  | '"' :: rest => readBasic? rest
  | '\'' :: '\'' :: '\'' :: rest => readLiteralLines? (skipLineEnd rest)
  | '\'' :: rest => readLiteral? rest
  | _ => none

/-! ## Numbers -/

/-- Digits of a base with single underscores between them; gives the digits alone. -/
def digitRun? (isDigit : Char → Bool) : List Char → Option (List Char)
  | [] => none
  | [c] => if isDigit c then some [c] else none
  | c :: '_' :: rest => if isDigit c then (digitRun? isDigit rest).map (c :: ·) else none
  | c :: rest => if isDigit c then (digitRun? isDigit rest).map (c :: ·) else none

def splitSign : List Char → Bool × List Char
  | '-' :: rest => (true, rest)
  | '+' :: rest => (false, rest)
  | input => (false, input)

def wholeDigits? (input : List Char) : Option (List Char) := do
  let digits ← digitRun? Char.isDigit input
  if digits.length > 1 && digits.head? == some '0' then none else some digits

def integer? (token : List Char) : Option Int := do
  let value : Int ←
    match token with
    | '0' :: 'x' :: digits => (digitRun? (isBaseDigit 16) digits).map fun d => (digitsValue 16 d : Int)
    | '0' :: 'o' :: digits => (digitRun? (isBaseDigit 8) digits).map fun d => (digitsValue 8 d : Int)
    | '0' :: 'b' :: digits => (digitRun? (isBaseDigit 2) digits).map fun d => (digitsValue 2 d : Int)
    | token =>
        let (negative, digits) := splitSign token
        (wholeDigits? digits).map fun d =>
          if negative then -(digitsValue 10 d : Int) else (digitsValue 10 d : Int)
  if isSigned 64 value then some value else none

def isExponentMark (c : Char) : Bool :=
  c = 'e' || c = 'E'

/-- Whether a token is a double: it needs a fraction or an exponent, and may not be too great. -/
def isDouble (token : List Char) : Bool :=
  let (negative, body) := splitSign token
  if body == ['i', 'n', 'f'] || body == ['n', 'a', 'n'] then true
  else
    let mantissa := body.takeWhile fun c => !isExponentMark c
    let exponentPart := body.dropWhile fun c => !isExponentMark c
    let whole := mantissa.takeWhile (· != '.')
    let fractionPart := mantissa.dropWhile (· != '.')
    let fraction := if fractionPart.isEmpty then some [] else digitRun? Char.isDigit fractionPart.tail
    let exponent : Option Int :=
      if exponentPart.isEmpty then some 0
      else
        let (below, digits) := splitSign exponentPart.tail
        (digitRun? Char.isDigit digits).map fun d =>
          if below then -(digitsValue 10 d : Int) else (digitsValue 10 d : Int)
    if fractionPart.isEmpty && exponentPart.isEmpty then false
    else
      match wholeDigits? whole, fraction, exponent with
      | some whole, some places, some exponent =>
          negative ||
            (Double.ofDecimal? false (digitsValue 10 (whole ++ places))
              (exponent - places.length)).isSome
      | _, _, _ => false

/-! ## Points in time -/

def fixedDigits? (count : Nat) (input : List Char) : Option (Nat × List Char) :=
  let digits := input.take count
  if digits.length = count ∧ digits.all Char.isDigit then
    some (digitsValue 10 digits, input.drop count)
  else none

def daysOf (year month : Nat) : Nat :=
  if month = 2 then
    if year % 4 = 0 ∧ (year % 100 ≠ 0 ∨ year % 400 = 0) then 29 else 28
  else if month = 4 ∨ month = 6 ∨ month = 9 ∨ month = 11 then 30
  else 31

def skipDate? (input : List Char) : Option (List Char) := do
  let (year, rest) ← fixedDigits? 4 input
  let '-' :: rest := rest | none
  let (month, rest) ← fixedDigits? 2 rest
  let '-' :: rest := rest | none
  let (day, rest) ← fixedDigits? 2 rest
  if 1 ≤ month ∧ month ≤ 12 ∧ 1 ≤ day ∧ day ≤ daysOf year month then some rest else none

def skipHourMinute? (input : List Char) : Option (List Char) := do
  let (hour, rest) ← fixedDigits? 2 input
  let ':' :: rest := rest | none
  let (minute, rest) ← fixedDigits? 2 rest
  if hour ≤ 23 ∧ minute ≤ 59 then some rest else none

/-- A time of day at the front of a token; a leap second is allowed. -/
def skipTime? (input : List Char) : Option (List Char) := do
  let rest ← skipHourMinute? input
  let ':' :: rest := rest | none
  let (second, rest) ← fixedDigits? 2 rest
  if 60 < second then none
  else
    match rest with
    | '.' :: places =>
        if (places.takeWhile Char.isDigit).isEmpty then none
        else some (places.dropWhile Char.isDigit)
    | rest => some rest

def isOffset : List Char → Bool
  | [] | ['Z'] | ['z'] => true
  | '+' :: rest | '-' :: rest => skipHourMinute? rest == some []
  | _ => false

def isMoment (token : List Char) : Bool :=
  match skipDate? token with
  | some [] => true
  | some (c :: rest) =>
      (c = 'T' || c = 't' || c = ' ') &&
        match skipTime? rest with
        | some rest => isOffset rest
        | none => false
  | none => skipTime? token == some []

def isTokenChar (c : Char) : Bool :=
  c.isAlphanum || c = '+' || c = '-' || c = '_' || c = '.' || c = ':'

/-- The token at the front of the input. A date and a time of day may stand apart by one blank. -/
def splitToken (input : List Char) : List Char × List Char :=
  let token := input.takeWhile isTokenChar
  match skipDate? token, input.dropWhile isTokenChar with
  | some [], ' ' :: rest =>
      let second := rest.takeWhile isTokenChar
      if (skipTime? second).isSome then (token ++ ' ' :: second, rest.dropWhile isTokenChar)
      else (token, ' ' :: rest)
  | _, rest => (token, rest)

end ReplicaPool.Toml
