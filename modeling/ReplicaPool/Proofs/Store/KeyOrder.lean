import ReplicaPool.Store.Key

/-!
# Keys are ordered

`compareKeys` compares numbers by rank, strings by their characters and everything else by JSON text. The
first character of a text tells strings, numbers and other values apart, in this order, so the three rules
fit together: `compareKeys` is a total preorder.
-/

namespace ReplicaPool

def charGrade (c : Char) : Nat :=
  if c.toNat ≤ 34 then 0 else if c.toNat < 91 then 1 else 2

namespace Json

/-- Strings come before numbers, and numbers before everything else. -/
def grade : Json → Nat
  | .string _ => 0
  | .integer _ => 1
  | .double _ => 1
  | _ => 2

def wording : Json → String
  | .string text => text
  | .integer _ => ""
  | .double _ => ""
  | other => other.text

def position (value : Json) : Int :=
  value.rank?.getD 0

end Json

/-! ### First characters -/

def Begins (kind : Char → Prop) (text : String) : Prop :=
  ∃ c rest, text.toList = c :: rest ∧ kind c

section Texts

variable {kind other : Char → Prop} {text : String}

theorem Begins.append (hbegins : Begins kind text) (rest : String) : Begins kind (text ++ rest) := by
  obtain ⟨c, others, htext, hkind⟩ := hbegins
  exact ⟨c, others ++ rest.toList, by rw [String.toList_append, htext, List.cons_append], hkind⟩

theorem Begins.mono (hbegins : Begins kind text) (himplies : ∀ c, kind c → other c) :
    Begins other text := by
  obtain ⟨c, rest, htext, hkind⟩ := hbegins
  exact ⟨c, rest, htext, himplies c hkind⟩

theorem Begins.take (hbegins : Begins kind text) (length : Nat) :
    Begins kind (text.take (length + 1)).toString := by
  obtain ⟨c, rest, htext, hkind⟩ := hbegins
  refine ⟨c, rest.take length, ?_, hkind⟩
  calc (text.take (length + 1)).toString.toList
      = text.toList.take (length + 1) := String.toList_copy_take
    _ = c :: rest.take length := by rw [htext, List.take_succ_cons]

theorem begins_toString (value : Nat) : Begins (fun c => c.isDigit = true) (toString value) := by
  have htext : (toString value).toList = Nat.toDigits 10 value := by
    rw [Nat.toString_eq_repr, Nat.repr_eq_ofList_toDigits, String.toList_ofList]
  cases hdigits : Nat.toDigits 10 value with
  | nil => exact absurd hdigits Nat.toDigits_ne_nil
  | cons c rest =>
      refine ⟨c, rest, htext.trans hdigits, ?_⟩
      apply Nat.isDigit_of_mem_toDigits (b := 10) (n := value) (by decide) (by decide)
      rw [hdigits]
      exact List.mem_cons_self

theorem charGrade_of_isDigit (c : Char) (hdigit : c.isDigit = true) : charGrade c = 1 := by
  have hrange : 48 ≤ c.toNat ∧ c.toNat ≤ 57 := Char.isDigit_iff_toNat.mp hdigit
  rw [charGrade, if_neg (by omega), if_pos (by omega)]

theorem begins_magnitude (digits : Nat) (exponent : Int) :
    Begins (charGrade · = 1) (Double.plainText (toString digits) exponent) ∧
      Begins (charGrade · = 1) (Double.scientificText (toString digits) exponent) := by
  have hdigits := begins_toString digits
  constructor
  · unfold Double.plainText
    split
    · have hzero : Begins (charGrade · = 1) "0." := ⟨'0', ['.'], rfl, rfl⟩
      exact (hzero.append _).append _
    · dsimp only
      split
      · exact ((hdigits.append _).append _).mono charGrade_of_isDigit
      · exact (((hdigits.take _).append _).append _).mono charGrade_of_isDigit
  · unfold Double.scientificText
    exact (((((hdigits.take 0).append _).append _).append _).append _).mono charGrade_of_isDigit

theorem begins_negative (rest : String) : Begins (charGrade · = 1) ("-" ++ rest) := by
  have hsign : Begins (charGrade · = 1) "-" := ⟨'-', [], rfl, rfl⟩
  exact hsign.append rest

end Texts

theorem Double.begins_text (number : Double) : Begins (charGrade · = 1) number.text := by
  obtain ⟨hplain, hscientific⟩ := begins_magnitude number.shortest.digits
    (number.shortest.exponent + (toString number.shortest.digits).length - 1)
  unfold Double.text
  dsimp only
  split
  · exact begins_negative _
  · split
    · exact hplain
    · exact hscientific

namespace Json

variable {a b : Json}

theorem begins_integer (value : Int) : Begins (charGrade · = 1) (toString value) := by
  cases value with
  | ofNat magnitude => exact (begins_toString magnitude).mono charGrade_of_isDigit
  | negSucc magnitude => exact begins_negative _

/-- A text shows the grade of its value by its first character. -/
theorem begins_text (value : Json) : Begins (charGrade · = value.grade) value.text := by
  cases value with
  | null => exact ⟨'n', _, rfl, rfl⟩
  | bool truth => cases truth <;> exact ⟨_, _, rfl, rfl⟩
  | integer value => exact begins_integer value
  | double value => exact value.begins_text
  | string value =>
      have hquote : Begins (charGrade · = 0) "\"" := ⟨'"', [], rfl, rfl⟩
      exact (hquote.append _).append _
  | array elements =>
      have hbracket : Begins (charGrade · = 2) "[" := ⟨'[', [], rfl, rfl⟩
      exact (hbracket.append _).append _
  | object fields =>
      have hbrace : Begins (charGrade · = 2) "\x7b" := ⟨'\x7b', [], rfl, rfl⟩
      exact (hbrace.append _).append _

theorem lt_of_charGrade_lt {c d : Char} (hgrade : charGrade c < charGrade d) : c < d := by
  rw [Char.lt_def, UInt32.lt_iff_toNat_lt]
  change c.toNat < d.toNat
  unfold charGrade at hgrade
  repeat' split at hgrade
  all_goals omega

theorem compare_text_of_grade_lt (hgrade : a.grade < b.grade) : compare a.text b.text = .lt := by
  obtain ⟨c, others, ha, hc⟩ := a.begins_text
  obtain ⟨d, rest, hb, hd⟩ := b.begins_text
  have hchar : c < d := lt_of_charGrade_lt (by rwa [hc, hd])
  have htexts : a.text < b.text := by
    rw [String.lt_iff, ha, hb]
    exact List.Lex.rel hchar
  exact compareOfLessAndEq_eq_lt.mpr htexts

end Json

/-! ### The order -/

section Order

variable {a b : Json}

theorem compareKeys_of_grade_ne (hgrade : a.grade ≠ b.grade) :
    compareKeys a b = compare a.text b.text := by
  cases a <;> cases b <;> first | rfl | exact absurd rfl hgrade

/-- Strings are before numbers, and numbers before everything else. -/
theorem compareKeys_of_grade_lt (hgrade : a.grade < b.grade) : compareKeys a b = .lt := by
  rw [compareKeys_of_grade_ne (Nat.ne_of_lt hgrade), Json.compare_text_of_grade_lt hgrade]

theorem compareKeys_of_grade_eq (hgrade : a.grade = b.grade) :
    compareKeys a b = (compare a.position b.position).then (compare a.wording b.wording) := by
  cases a <;> cases b <;> cases hgrade <;>
    simp [compareKeys, Json.position, Json.wording, Json.rank?]

/-- Values are compared by grade first. -/
theorem compareKeys_eq_compareLex : compareKeys =
    compareLex (compareOn Json.grade) (compareLex (compareOn Json.position) (compareOn Json.wording)) := by
  funext a b
  simp only [compareLex, compareOn]
  rcases Nat.lt_trichotomy a.grade b.grade with hlt | heq | hgt
  · rw [compareKeys_of_grade_lt hlt, Nat.compare_eq_lt.mpr hlt]
    rfl
  · rw [compareKeys_of_grade_eq heq, Nat.compare_eq_eq.mpr heq]
    rfl
  · rw [compareKeys_of_grade_ne (Nat.ne_of_gt hgt), Std.OrientedOrd.eq_swap,
      Json.compare_text_of_grade_lt hgt, Nat.compare_eq_gt.mpr hgt]
    rfl

instance : Std.TransCmp compareKeys := by
  rw [compareKeys_eq_compareLex]
  infer_instance

theorem compareKeys_self (a : Json) : compareKeys a a = .eq :=
  Std.ReflCmp.compare_self

theorem compareKeys_swap (a b : Json) : compareKeys a b = (compareKeys b a).swap :=
  Std.OrientedCmp.eq_swap

theorem compareKeys_isLE_total (a b : Json) :
    ((compareKeys a b).isLE || (compareKeys b a).isLE) = true := by
  rw [compareKeys_swap b]
  cases compareKeys a b <;> rfl

end Order

end ReplicaPool
