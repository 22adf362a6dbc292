import Mathlib.Data.List.Basic
import Mathlib.Tactic.SplitIfs
import ReplicaPool.Number.Digits

/-!
# Decimal digits

Digits up to base ten are the usual ones, and a run of them denotes the usual number. So what is read as an
unsigned word is a numeral of it, behind at most one plus sign.
-/

namespace ReplicaPool

variable {text : List Char} {c : Char} {bits value : Nat}

theorem hexValue?_of_isDigit (hdigit : c.isDigit = true) :
    hexValue? c = some (c.toNat - '0'.toNat) := by
  have hrange : 48 ≤ c.toNat ∧ c.toNat ≤ 57 := Char.isDigit_iff_toNat.mp hdigit
  rw [hexValue?, if_pos]
  exact hrange

theorem digitsValue_of_isDigit (hdigits : ∀ c ∈ text, c.isDigit = true) :
    digitsValue 10 text = Nat.ofDigitChars 10 text 0 := by
  unfold digitsValue Nat.ofDigitChars
  apply List.foldl_ext
  intro value c hmem
  rw [hexValue?_of_isDigit (hdigits c hmem), Option.getD_some]

theorem isBaseDigit_ten (c : Char) : isBaseDigit 10 c = c.isDigit := by
  rw [Bool.eq_iff_iff]
  constructor
  · intro hdigit
    unfold isBaseDigit hexValue? at hdigit
    split_ifs at hdigit with hten hsmall hcapital
    · exact Char.isDigit_iff_toNat.mpr hten
    · exact absurd (of_decide_eq_true hdigit) (by omega)
    · exact absurd (of_decide_eq_true hdigit) (by omega)
  · intro hdigit
    have hrange : 48 ≤ c.toNat ∧ c.toNat ≤ 57 := Char.isDigit_iff_toNat.mp hdigit
    have hzero : '0'.toNat = 48 := rfl
    rw [isBaseDigit, hexValue?_of_isDigit hdigit]
    exact decide_eq_true (by omega)

/-- Decimal digits, leading zeros allowed, that denote an unsigned word. -/
structure IsNumeral (bits : Nat) (text : List Char) : Prop where
  ne_nil : text ≠ []
  digits : ∀ c ∈ text, c.isDigit = true
  lt : Nat.ofDigitChars 10 text 0 < wordCount bits

theorem isNumeral_iff :
    IsNumeral bits text ↔
      (text.isEmpty || !text.all (isBaseDigit 10)) = false ∧ digitsValue 10 text < wordCount bits := by
  have hall : text.all (isBaseDigit 10) = true ↔ ∀ c ∈ text, c.isDigit = true := by
    simp only [List.all_eq_true, isBaseDigit_ten]
  rw [Bool.or_eq_false_iff, List.isEmpty_eq_false_iff, Bool.not_eq_false', hall]
  constructor
  · intro hnumeral
    exact ⟨⟨hnumeral.ne_nil, hnumeral.digits⟩, digitsValue_of_isDigit hnumeral.digits ▸ hnumeral.lt⟩
  · rintro ⟨⟨hne, hdigits⟩, hlt⟩
    exact ⟨hne, hdigits, digitsValue_of_isDigit hdigits ▸ hlt⟩

theorem unsignedWord?_isSome_iff :
    (unsignedWord? bits text).isSome = true ↔
      IsNumeral bits text ∨ ∃ digits, text = '+' :: digits ∧ IsNumeral bits digits := by
  have hread : ∀ digits : List Char,
      (if digits.isEmpty || !digits.all (isBaseDigit 10) then none
        else if digitsValue 10 digits < wordCount bits then some (digitsValue 10 digits)
        else none).isSome = true ↔ IsNumeral bits digits := by
    intro digits
    rw [isNumeral_iff]
    cases digits.isEmpty || !digits.all (isBaseDigit 10) with
    | true => simp
    | false => by_cases hlt : digitsValue 10 digits < wordCount bits <;> simp [hlt]
  unfold unsignedWord?
  split
  · rename_i digits
    have hsign : ¬IsNumeral bits ('+' :: digits) := fun hnumeral => by
      cases hnumeral.digits '+' List.mem_cons_self
    rw [hread, or_iff_right hsign]
    exact ⟨fun hnumeral => ⟨digits, rfl, hnumeral⟩, fun ⟨_, htext, hnumeral⟩ =>
      (List.cons.inj htext).2 ▸ hnumeral⟩
  · rename_i hsign
    rw [hread, or_iff_left]
    rintro ⟨digits, rfl, -⟩
    exact hsign digits rfl

end ReplicaPool
