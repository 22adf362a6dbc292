import Mathlib.Order.Monotone.Basic
import Mathlib.Tactic.Ring
import Mathlib.Tactic.Linarith
import ReplicaPool.Store.Key

/-!
# The doubles nearest to whole numbers

From `2⁵³` on doubles lie more than one apart. `nearestWhole` rounds a whole number to one that is a double,
`compareKeys_integer` says that integers compare as the numbers they are rounded to, and from there on it
is arithmetic: rounding keeps the order, changes nothing up to `2⁵³`, and never goes further than half the
distance between two doubles.
-/

namespace ReplicaPool

/-! ### Rounding a ratio -/

section Rounding

variable {numerator other denominator : Nat}

/-- A ratio is rounded down or up, whichever is not farther. -/
theorem roundHalfEven_cases (numerator denominator : Nat) :
    (roundHalfEven numerator denominator = numerator / denominator ∧
        2 * (numerator % denominator) ≤ denominator) ∨
      (roundHalfEven numerator denominator = numerator / denominator + 1 ∧
        denominator ≤ 2 * (numerator % denominator)) := by
  unfold roundHalfEven
  dsimp only
  split
  · exact Or.inl ⟨rfl, by omega⟩
  · split
    · exact Or.inr ⟨rfl, by omega⟩
    · rcases Nat.mod_two_eq_zero_or_one (numerator / denominator) with heven | hodd
      · exact Or.inl ⟨by omega, by omega⟩
      · exact Or.inr ⟨by omega, by omega⟩

theorem roundHalfEven_bounds (numerator : Nat) (hpos : 0 < denominator) :
    2 * (roundHalfEven numerator denominator * denominator) ≤ 2 * numerator + denominator ∧
      2 * numerator ≤ 2 * (roundHalfEven numerator denominator * denominator) + denominator := by
  have hdivision : numerator / denominator * denominator + numerator % denominator = numerator :=
    Nat.div_add_mod' numerator denominator
  rcases roundHalfEven_cases numerator denominator with ⟨hdown, hhalf⟩ | ⟨hup, hhalf⟩
  · rw [hdown]
    omega
  · have hbelow := Nat.mod_lt numerator hpos
    rw [hup, Nat.add_mul, Nat.one_mul]
    omega

theorem roundHalfEven_mono (denominator : Nat) (hle : numerator ≤ other) :
    roundHalfEven numerator denominator ≤ roundHalfEven other denominator := by
  have hquotient : numerator / denominator ≤ other / denominator := Nat.div_le_div_right hle
  rcases Nat.lt_or_ge (numerator / denominator) (other / denominator) with hlt | hge
  · rcases roundHalfEven_cases numerator denominator with hfirst | hfirst <;>
      rcases roundHalfEven_cases other denominator with hsecond | hsecond <;> omega
  · have hsame : numerator / denominator = other / denominator := Nat.le_antisymm hquotient hge
    have hrest : numerator % denominator ≤ other % denominator := by
      have hfirst := Nat.div_add_mod numerator denominator
      have hsecond := Nat.div_add_mod other denominator
      rw [hsame] at hfirst
      omega
    unfold roundHalfEven
    dsimp only
    rw [hsame]
    split_ifs <;> omega

theorem roundHalfEven_mul_right {factor : Nat} (hfactor : 0 < factor) :
    roundHalfEven (numerator * factor) (denominator * factor) =
      roundHalfEven numerator denominator := by
  have hquotient : numerator * factor / (denominator * factor) = numerator / denominator :=
    Nat.mul_div_mul_right _ _ hfactor
  have hrest : numerator * factor % (denominator * factor) = numerator % denominator * factor :=
    Nat.mul_mod_mul_right _ _ _
  have hbelow : 2 * (numerator % denominator * factor) < denominator * factor ↔
      2 * (numerator % denominator) < denominator := by
    rw [← Nat.mul_assoc, Nat.mul_lt_mul_right hfactor]
  have habove : denominator * factor < 2 * (numerator % denominator * factor) ↔
      denominator < 2 * (numerator % denominator) := by
    rw [← Nat.mul_assoc, Nat.mul_lt_mul_right hfactor]
  simp only [roundHalfEven, hquotient, hrest, hbelow, habove]

theorem roundHalfEven_mul_self (hpos : 0 < denominator) :
    roundHalfEven (numerator * denominator) denominator = numerator := by
  simp [roundHalfEven, hpos]

end Rounding

/-! ### Codes -/

theorem octave_eq : octave = 2 ^ 52 := rfl

/-- The units of `2⁻¹⁰⁷⁴` that a code stands for. -/
def codeUnits (code : Nat) : Nat :=
  (if code < octave then code else code % octave + octave) * 2 ^ (code / octave - 1)

/-- A significand of full length is scaled by the octave that its code lies in. -/
theorem codeUnits_of_significand {doublings significand : Nat} (hlow : octave ≤ significand)
    (hhigh : significand ≤ 2 * octave) :
    codeUnits (doublings * octave + significand) = significand * 2 ^ doublings := by
  have hpos : 0 < octave := by decide
  have hfull : ¬doublings * octave + significand < octave := by omega
  rcases Nat.lt_or_ge significand (2 * octave) with hlt | hge
  · obtain ⟨rest, rfl⟩ := Nat.exists_eq_add_of_le hlow
    have hcode : doublings * octave + (octave + rest) = rest + (doublings + 1) * octave := by ring
    rw [codeUnits, if_neg hfull, hcode, Nat.add_mul_mod_self_right, Nat.add_mul_div_right _ _ hpos,
      Nat.mod_eq_of_lt (by omega), Nat.div_eq_of_lt (by omega), Nat.zero_add, Nat.add_sub_cancel,
      Nat.add_comm rest]
  · have hsignificand : significand = 2 * octave := Nat.le_antisymm hhigh hge
    have hcode : doublings * octave + significand = 0 + (doublings + 2) * octave := by
      rw [hsignificand]
      ring
    rw [codeUnits, if_neg hfull, hcode, Nat.add_mul_mod_self_right, Nat.add_mul_div_right _ _ hpos,
      Nat.zero_mod, Nat.zero_div, Nat.zero_add, Nat.zero_add, hsignificand,
      show doublings + 2 - 1 = doublings + 1 by omega, Nat.pow_succ]
    ring

theorem codeUnits_of_lt {code : Nat} (hlt : code < octave) : codeUnits code = code := by
  simp [codeUnits, hlt, Nat.div_eq_of_lt hlt]

/-- A higher code stands for a greater number. -/
theorem codeUnits_strictMono : StrictMono codeUnits := by
  refine strictMono_nat_of_lt_succ fun code => ?_
  rcases Nat.lt_or_ge code octave with hlt | hge
  · rw [codeUnits_of_lt hlt]
    rcases Nat.lt_or_ge (code + 1) octave with hnext | hnext
    · rw [codeUnits_of_lt hnext]
      omega
    · have hcode : code + 1 = 0 * octave + octave := by omega
      rw [hcode, codeUnits_of_significand (Nat.le_refl _) (by omega)]
      omega
  · -- both codes lie in one octave, the second one at its very end at most
    obtain ⟨doublings, significand, hcode, hlow, hhigh⟩ : ∃ doublings significand,
        code = doublings * octave + significand ∧ octave ≤ significand ∧
          significand < 2 * octave := by
      have hdivision := Nat.div_add_mod' code octave
      have hquotient : 1 ≤ code / octave := (Nat.one_le_div_iff (by decide)).mpr hge
      have hrest : code % octave < octave := Nat.mod_lt _ (by decide)
      refine ⟨code / octave - 1, code % octave + octave, ?_, by omega, by omega⟩
      calc code = (code / octave - 1 + 1) * octave + code % octave := by
            rw [Nat.sub_add_cancel hquotient, hdivision]
        _ = (code / octave - 1) * octave + (code % octave + octave) := by ring
    rw [hcode, Nat.add_assoc, codeUnits_of_significand hlow (by omega),
      codeUnits_of_significand (by omega) (by omega), Nat.mul_lt_mul_right (Nat.two_pow_pos _)]
    omega

/-! ### Whole numbers -/

/-- How far apart doubles lie around a whole number, if that is at least one. -/
def spacing (magnitude : Nat) : Nat :=
  2 ^ (magnitude.log2 - 52)

def nearestMagnitude (magnitude : Nat) : Nat :=
  roundHalfEven magnitude (spacing magnitude) * spacing magnitude

variable {magnitude other : Nat}

theorem spacing_pos (magnitude : Nat) : 0 < spacing magnitude :=
  Nat.two_pow_pos _

theorem spacing_le {bits : Nat} (hlt : magnitude < 2 ^ bits) :
    spacing magnitude ≤ 2 ^ (bits - 1 - 52) := by
  rcases Nat.eq_zero_or_pos magnitude with rfl | hpos
  · exact Nat.pow_le_pow_right (by decide) (by simp)
  · have hlog : magnitude.log2 < bits := (Nat.log2_lt hpos.ne').mpr hlt
    exact Nat.pow_le_pow_right (by decide) (by omega)

/-- Up to `2⁵³` every whole number is a double. -/
theorem nearestMagnitude_eq_self (hle : magnitude ≤ 2 ^ 53) :
    nearestMagnitude magnitude = magnitude := by
  rcases Nat.lt_or_ge magnitude (2 ^ 53) with hlt | hge
  · have hspacing : spacing magnitude = 1 := Nat.le_antisymm (spacing_le hlt) (spacing_pos _)
    rw [nearestMagnitude, hspacing, Nat.mul_one]
    have hexact : roundHalfEven (magnitude * 1) 1 = magnitude := roundHalfEven_mul_self Nat.one_pos
    rwa [Nat.mul_one] at hexact
  · have hspacing : spacing (2 ^ 53) = 2 := by rw [spacing, Nat.log2_two_pow, Nat.pow_one]
    rw [Nat.le_antisymm hle hge, nearestMagnitude, hspacing, Nat.pow_succ,
      roundHalfEven_mul_self Nat.two_pos]

theorem nearestMagnitude_bounds (magnitude : Nat) :
    2 * nearestMagnitude magnitude ≤ 2 * magnitude + spacing magnitude ∧
      2 * magnitude ≤ 2 * nearestMagnitude magnitude + spacing magnitude :=
  roundHalfEven_bounds magnitude (spacing_pos magnitude)

/-- The significand of a whole number that has more than 52 digits below its first one. -/
theorem roundHalfEven_spacing_bounds (hlog : 52 ≤ magnitude.log2) :
    octave ≤ roundHalfEven magnitude (spacing magnitude) ∧
      roundHalfEven magnitude (spacing magnitude) ≤ 2 * octave := by
  have hpos : magnitude ≠ 0 := by
    rintro rfl
    simp at hlog
  have hpower : ∀ bits, 2 ^ (bits + magnitude.log2 - 52) = 2 ^ bits * spacing magnitude := by
    intro bits
    rw [spacing, ← Nat.pow_add, Nat.add_sub_assoc hlog]
  have hlow := roundHalfEven_mono (spacing magnitude) (Nat.log2_self_le hpos)
  have hhigh := roundHalfEven_mono (spacing magnitude) (Nat.lt_log2_self (n := magnitude)).le
  have hfirst := hpower 52
  have hsecond := hpower 53
  rw [Nat.add_sub_cancel_left] at hfirst
  rw [show 53 + magnitude.log2 - 52 = magnitude.log2 + 1 by omega] at hsecond
  rw [hfirst, roundHalfEven_mul_self (spacing_pos _)] at hlow
  rw [hsecond, roundHalfEven_mul_self (spacing_pos _)] at hhigh
  exact ⟨hlow, hhigh⟩

/-- A whole number is not rounded beyond the powers of two that it lies between. -/
theorem nearestMagnitude_between (hpos : magnitude ≠ 0) :
    2 ^ magnitude.log2 ≤ nearestMagnitude magnitude ∧
      nearestMagnitude magnitude ≤ 2 ^ (magnitude.log2 + 1) := by
  rcases Nat.lt_or_ge magnitude.log2 52 with hlt | hge
  · have hsmall : magnitude ≤ 2 ^ 53 :=
      ((Nat.log2_lt hpos).mp (Nat.lt_succ_of_lt hlt)).le
    rw [nearestMagnitude_eq_self hsmall]
    exact ⟨Nat.log2_self_le hpos, Nat.lt_log2_self.le⟩
  · obtain ⟨hlow, hhigh⟩ := roundHalfEven_spacing_bounds hge
    have hpower : octave * spacing magnitude = 2 ^ magnitude.log2 := by
      rw [octave_eq, spacing, ← Nat.pow_add, Nat.add_sub_cancel' hge]
    constructor
    · rw [← hpower]
      exact Nat.mul_le_mul_right _ hlow
    · calc nearestMagnitude magnitude ≤ 2 * octave * spacing magnitude :=
            Nat.mul_le_mul_right _ hhigh
        _ = 2 ^ (magnitude.log2 + 1) := by rw [Nat.mul_assoc, hpower, Nat.pow_succ, Nat.mul_comm]

theorem nearestMagnitude_mono (hle : magnitude ≤ other) :
    nearestMagnitude magnitude ≤ nearestMagnitude other := by
  rcases Nat.eq_zero_or_pos magnitude with rfl | hpos
  · simp [nearestMagnitude, roundHalfEven]
  · have hother : other ≠ 0 := by omega
    have hlog : magnitude.log2 ≤ other.log2 :=
      (Nat.le_log2 hother).mpr ((Nat.log2_self_le hpos.ne').trans hle)
    rcases Nat.eq_or_lt_of_le hlog with hsame | hlt
    · have hspacing : spacing magnitude = spacing other := by rw [spacing, spacing, hsame]
      rw [nearestMagnitude, nearestMagnitude, hspacing]
      exact Nat.mul_le_mul_right _ (roundHalfEven_mono _ hle)
    · calc nearestMagnitude magnitude ≤ 2 ^ (magnitude.log2 + 1) :=
            (nearestMagnitude_between hpos.ne').2
        _ ≤ 2 ^ other.log2 := Nat.pow_le_pow_right (by decide) hlt
        _ ≤ nearestMagnitude other := (nearestMagnitude_between hother).1

theorem log2_mul_two_pow (hpos : magnitude ≠ 0) (bits : Nat) :
    (magnitude * 2 ^ bits).log2 = magnitude.log2 + bits := by
  have hpower := Nat.two_pow_pos bits
  rw [Nat.log2_eq_iff (Nat.mul_ne_zero hpos hpower.ne'), Nat.pow_add, Nat.pow_succ, Nat.pow_add,
    Nat.mul_right_comm, ← Nat.pow_succ]
  exact ⟨Nat.mul_le_mul_right _ (Nat.log2_self_le hpos),
    Nat.mul_lt_mul_of_pos_right Nat.lt_log2_self hpower⟩

/-- The code of a whole number: its octave, and its units divided to a significand. -/
theorem nearestCode_eq (hpos : magnitude ≠ 0) :
    nearestCode magnitude 1 = (magnitude.log2 + 1022) * octave +
      roundHalfEven (magnitude * 2 ^ 1074) (2 ^ (magnitude.log2 + 1022)) := by
  have hunits : ∀ bits, magnitude <<< bits = magnitude * 2 ^ bits := Nat.shiftLeft_eq magnitude
  have hdoublings : (magnitude <<< 1074 / 1).log2 - 52 = magnitude.log2 + 1022 := by
    rw [Nat.div_one, hunits, log2_mul_two_pow hpos]
    omega
  unfold nearestCode
  dsimp only
  rw [hdoublings, hunits, Nat.shiftLeft_eq, Nat.one_mul]

/-- A whole number of at most 53 digits divides its units exactly, which makes the significand full. -/
theorem codeUnits_nearestCode_of_exact (hpos : magnitude ≠ 0) (hlog : magnitude.log2 ≤ 52) :
    codeUnits (nearestCode magnitude 1) = magnitude * 2 ^ 1074 := by
  have hexponent : 52 - magnitude.log2 + (magnitude.log2 + 1022) = 1074 := by omega
  have hunits : magnitude * 2 ^ (52 - magnitude.log2) * 2 ^ (magnitude.log2 + 1022) =
      magnitude * 2 ^ 1074 := by
    rw [Nat.mul_assoc, ← Nat.pow_add]
    exact congrArg (magnitude * 2 ^ ·) hexponent
  have hfull : (magnitude * 2 ^ (52 - magnitude.log2)).log2 = 52 := by
    rw [log2_mul_two_pow hpos]
    omega
  have hne : magnitude * 2 ^ (52 - magnitude.log2) ≠ 0 :=
    Nat.mul_ne_zero hpos (Nat.two_pow_pos _).ne'
  obtain ⟨hlow, hhigh⟩ := (Nat.log2_eq_iff hne).mp hfull
  rw [nearestCode_eq hpos, ← hunits, roundHalfEven_mul_self (Nat.two_pow_pos _),
    codeUnits_of_significand hlow hhigh.le, hunits]

theorem nearestCode_zero : nearestCode 0 1 = 0 := by
  simp [nearestCode, roundHalfEven]

/-- The double nearest to a whole number is the whole number that it is rounded to. -/
theorem codeUnits_nearestCode (magnitude : Nat) :
    codeUnits (nearestCode magnitude 1) = nearestMagnitude magnitude * 2 ^ 1074 := by
  rcases Nat.eq_zero_or_pos magnitude with rfl | hpos
  · rw [nearestCode_zero, codeUnits_of_lt (by decide), nearestMagnitude_eq_self (Nat.zero_le _),
      Nat.zero_mul]
  · rcases Nat.lt_or_ge magnitude.log2 52 with hlt | hge
    · have hsmall : magnitude < 2 ^ 53 := (Nat.log2_lt hpos.ne').mp (Nat.lt_succ_of_lt hlt)
      rw [codeUnits_nearestCode_of_exact hpos.ne' hlt.le, nearestMagnitude_eq_self hsmall.le]
    · have hdenominator : 2 ^ (magnitude.log2 + 1022) = spacing magnitude * 2 ^ 1074 := by
        rw [spacing, ← Nat.pow_add]
        congr 1
        omega
      obtain ⟨hlow, hhigh⟩ := roundHalfEven_spacing_bounds hge
      rw [nearestCode_eq hpos.ne', hdenominator, roundHalfEven_mul_right (Nat.two_pow_pos _),
        codeUnits_of_significand hlow hhigh, hdenominator, ← Nat.mul_assoc, nearestMagnitude]

theorem nearestCode_lt_iff :
    nearestCode magnitude 1 < nearestCode other 1 ↔
      nearestMagnitude magnitude < nearestMagnitude other := by
  rw [← codeUnits_strictMono.lt_iff_lt, codeUnits_nearestCode, codeUnits_nearestCode,
    Nat.mul_lt_mul_right (Nat.two_pow_pos _)]

/-! ### Integers -/

def nearestWhole (value : Int) : Int :=
  if value < 0 then -(nearestMagnitude value.natAbs : Int) else nearestMagnitude value.natAbs

variable {a b : Int}

theorem nearestMagnitude_pos (hpos : 0 < magnitude) : 0 < nearestMagnitude magnitude :=
  Nat.lt_of_lt_of_le (Nat.two_pow_pos _) (nearestMagnitude_between hpos.ne').1

theorem nearestCode_pos (hpos : 0 < magnitude) : 0 < nearestCode magnitude 1 := by
  rw [← nearestCode_zero, nearestCode_lt_iff]
  exact nearestMagnitude_pos hpos

theorem integerRank_lt_iff : integerRank a < integerRank b ↔ nearestWhole a < nearestWhole b := by
  have hcodes : nearestCode a.natAbs 1 < nearestCode b.natAbs 1 ↔
      nearestMagnitude a.natAbs < nearestMagnitude b.natAbs := nearestCode_lt_iff
  have hswapped : nearestCode b.natAbs 1 < nearestCode a.natAbs 1 ↔
      nearestMagnitude b.natAbs < nearestMagnitude a.natAbs := nearestCode_lt_iff
  unfold integerRank nearestWhole
  dsimp only
  by_cases ha : a < 0 <;> by_cases hb : b < 0
  · rw [if_pos ha, if_pos hb, if_pos ha, if_pos hb]
    omega
  · have hcode := nearestCode_pos (Int.natAbs_pos.mpr ha.ne)
    have hmagnitude := nearestMagnitude_pos (Int.natAbs_pos.mpr ha.ne)
    rw [if_pos ha, if_neg hb, if_pos ha, if_neg hb]
    omega
  · rw [if_neg ha, if_pos hb, if_neg ha, if_pos hb]
    omega
  · rw [if_neg ha, if_neg hb, if_neg ha, if_neg hb]
    omega

/-- Integers compare as the numbers that they become as doubles. -/
theorem compareKeys_integer (a b : Int) :
    compareKeys (.integer a) (.integer b) = compare (nearestWhole a) (nearestWhole b) := by
  have hcompare : compareKeys (.integer a) (.integer b) = compare (integerRank a) (integerRank b) :=
    rfl
  rw [hcompare]
  rcases lt_trichotomy (nearestWhole a) (nearestWhole b) with hlt | heq | hgt
  · rw [compare_lt_iff_lt.mpr hlt, compare_lt_iff_lt.mpr (integerRank_lt_iff.mpr hlt)]
  · rw [compare_eq_iff_eq.mpr heq, compare_eq_iff_eq]
    refine le_antisymm (not_lt.mp fun hlt => ?_) (not_lt.mp fun hlt => ?_)
    · exact absurd (integerRank_lt_iff.mp hlt) (by omega)
    · exact absurd (integerRank_lt_iff.mp hlt) (by omega)
  · rw [compare_gt_iff_gt.mpr hgt, compare_gt_iff_gt.mpr (integerRank_lt_iff.mpr hgt)]

theorem nearestWhole_mono (hle : a ≤ b) : nearestWhole a ≤ nearestWhole b := by
  unfold nearestWhole
  by_cases ha : a < 0 <;> by_cases hb : b < 0
  · have hmagnitudes := nearestMagnitude_mono (show b.natAbs ≤ a.natAbs by omega)
    rw [if_pos ha, if_pos hb]
    omega
  · rw [if_pos ha, if_neg hb]
    omega
  · omega
  · have hmagnitudes := nearestMagnitude_mono (show a.natAbs ≤ b.natAbs by omega)
    rw [if_neg ha, if_neg hb]
    omega

theorem nearestWhole_eq_self (hle : a.natAbs ≤ 2 ^ 53) : nearestWhole a = a := by
  unfold nearestWhole
  rw [nearestMagnitude_eq_self hle]
  split <;> omega

/-- Rounding goes no further than half the distance between two doubles. -/
theorem two_mul_natAbs_nearestWhole_sub_le (value : Int) :
    2 * (nearestWhole value - value).natAbs ≤ spacing value.natAbs := by
  obtain ⟨hbelow, habove⟩ := nearestMagnitude_bounds value.natAbs
  unfold nearestWhole
  split <;> omega

end ReplicaPool
