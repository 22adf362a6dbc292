import Mathlib.Data.List.Forall2
import ReplicaPool.Proofs.Number.Digits
import ReplicaPool.Proofs.Toml.Strings
import ReplicaPool.Toml.Reader

/-!
# Lines are read as they were written

`Statement.WrittenAs` says that the reader takes exactly a certain statement from the front of a document.
Headers and entries whose value is a string, a list of strings or a whole number are written that way, so a
document that consists of such lines is read statement by statement.
-/

namespace ReplicaPool.Toml

variable {key text rest : List Char} {c : Char} {fuel depth : Nat} {statement : Statement}

/-! ### Whole numbers -/

theorem digitRun?_of_isDigit (hne : text ≠ []) (hdigits : ∀ c ∈ text, c.isDigit = true) :
    digitRun? Char.isDigit text = some text := by
  induction text with
  | nil => exact absurd rfl hne
  | cons c text ih =>
      have hfirst := hdigits c List.mem_cons_self
      rcases text with _ | ⟨d, text⟩
      · simp [digitRun?, hfirst]
      · have hsecond : d ≠ '_' := by
          rintro rfl
          cases hdigits '_' (by simp)
        have hothers := ih (by simp) fun other hmem => hdigits other (List.mem_cons_of_mem c hmem)
        simp [digitRun?, hfirst, hsecond, hothers]

theorem wholeDigits?_of_isDigit (hne : text ≠ []) (hdigits : ∀ c ∈ text, c.isDigit = true)
    (hzero : text.head? = some '0' → text.length ≤ 1) : wholeDigits? text = some text := by
  have hplain : 1 < text.length → ¬ text.head? = some '0' := fun hlong hhead =>
    Nat.not_lt.mpr (hzero hhead) hlong
  simpa [wholeDigits?, digitRun?_of_isDigit hne hdigits] using hplain

theorem integer?_of_isDigit (hne : text ≠ []) (hdigits : ∀ c ∈ text, c.isDigit = true)
    (hzero : text.head? = some '0' → text.length ≤ 1)
    (hrange : isSigned 64 (digitsValue 10 text : Int) = true) :
    integer? text = some (digitsValue 10 text : Int) := by
  have hwhole := wholeDigits?_of_isDigit hne hdigits hzero
  have hsign : splitSign text = (false, text) := by
    unfold splitSign
    split
    · cases hdigits '-' List.mem_cons_self
    · cases hdigits '+' List.mem_cons_self
    · rfl
  have hsecond : ∀ mark others, text = '0' :: mark :: others → mark.isDigit = true := by
    rintro mark others rfl
    exact hdigits mark (by simp)
  -- For any range, so that nothing computes with the greatest integer.
  have hchecked : ∀ (fits : Int → Bool) (value : Int), fits value = true →
      ((some value).bind fun value => if fits value then some value else none) = some value := by
    intro fits value hfits
    rw [Option.bind_some, if_pos hfits]
  unfold integer?
  split
  · cases hsecond 'x' _ rfl
  · cases hsecond 'o' _ rfl
  · cases hsecond 'b' _ rfl
  · rw [hsign]
    simp only [hwhole, Option.map_some, Bool.false_eq_true, if_false]
    exact hchecked (isSigned 64) _ hrange

/-- The digits of a positive number do not begin with a zero. -/
theorem head?_toDigits {value : Nat} (hpositive : 0 < value) :
    (Nat.toDigits 10 value).head? ≠ some '0' := by
  induction value using Nat.strongRecOn with
  | ind value ih =>
      have hsingle : ∀ digit < 10, 0 < digit → digit.digitChar ≠ '0' := by
        decide
      rw [Nat.toDigits_eq_if (by decide)]
      split_ifs with hsmall
      · simpa using hsingle value hsmall hpositive
      · have hquotient := ih (value / 10) (by omega) (by omega)
        rwa [List.head?_append_of_ne_nil _ Nat.toDigits_ne_nil]

theorem integer?_toString {value : Nat} (hrange : value < wordCount 63) :
    integer? (toString value).toList = some (value : Int) := by
  have hdigits : ∀ c ∈ Nat.toDigits 10 value, c.isDigit = true := fun c hmem =>
    Nat.isDigit_of_mem_toDigits (by decide) (by decide) hmem
  have hvalue : digitsValue 10 (Nat.toDigits 10 value) = value := by
    rw [digitsValue_of_isDigit hdigits, Nat.ofDigitChars_ten_toDigits]
  have hread : integer? (Nat.toDigits 10 value) = some (digitsValue 10 (Nat.toDigits 10 value) : Int) := by
    apply integer?_of_isDigit Nat.toDigits_ne_nil hdigits
    · intro hzero
      rcases Nat.eq_zero_or_pos value with rfl | hpositive
      · decide
      · exact absurd hzero (head?_toDigits hpositive)
    · rw [hvalue, isSigned, Bool.and_eq_true, decide_eq_true_eq, decide_eq_true_eq]
      exact ⟨by omega, by exact_mod_cast hrange⟩
  rw [Nat.toString_eq_repr, Nat.toList_repr, hread, hvalue]

theorem splitToken_of_line (rest : List Char) (htoken : ∀ c ∈ text, isTokenChar c = true) :
    splitToken (text ++ '\n' :: rest) = (text, '\n' :: rest) := by
  have htake : (text ++ '\n' :: rest).takeWhile isTokenChar = text := by
    rw [List.takeWhile_append_of_pos htoken, List.takeWhile_cons_of_neg (by decide), List.append_nil]
  have hdrop : (text ++ '\n' :: rest).dropWhile isTokenChar = '\n' :: rest := by
    rw [List.dropWhile_append_of_pos htoken, List.dropWhile_cons_of_neg (by decide)]
  unfold splitToken
  rw [htake, hdrop]
  dsimp only
  split
  · rename_i heq
    cases heq
  · rfl

theorem readValue?_toString {value : Nat} (hrange : value < wordCount 63) :
    readValue? (fuel + 1) depth ((toString value).toList ++ '\n' :: rest) =
      some (.integer value, '\n' :: rest) := by
  have hread := integer?_toString hrange
  have hdigits : ∀ c ∈ (toString value).toList, c.isDigit = true := by
    rw [Nat.toString_eq_repr, Nat.toList_repr]
    exact fun c hmem => Nat.isDigit_of_mem_toDigits (by decide) (by decide) hmem
  have hne : (toString value).toList ≠ [] := by
    rw [Nat.toString_eq_repr, Nat.toList_repr]
    exact Nat.toDigits_ne_nil
  generalize (toString value).toList = text at hread hdigits hne ⊢
  have htoken : ∀ c ∈ text, isTokenChar c = true := fun c hmem => by
    simp [isTokenChar, Char.isAlphanum, hdigits c hmem]
  have hsplit := splitToken_of_line rest htoken
  obtain ⟨first, others, rfl⟩ := List.exists_cons_of_ne_nil hne
  have hfirst := hdigits first List.mem_cons_self
  have hkind : first ∉ ['"', '\'', '[', '\x7b'] := by
    intro hmem
    simp at hmem
    rcases hmem with rfl | rfl | rfl | rfl <;> cases hfirst
  simp at hkind
  rw [List.cons_append] at hsplit ⊢
  simp [readValue?, hkind, hsplit, tokenValue?, hread]

/-! ### Strings as values -/

theorem readValue?_writeChars (text : List Char) (hquote : rest.head? ≠ some '"')
    (hmark : rest.head? ≠ some '\'') :
    readValue? (fuel + 1) depth (writeChars text ++ rest) =
      some (.string (String.ofList text), rest) := by
  have hread := readString?_writeChars text hquote hmark
  obtain ⟨mark, others, hwritten, hkind⟩ := exists_writeChars_eq_cons text
  rw [hwritten, List.cons_append] at hread ⊢
  rcases hkind with rfl | rfl <;> simp [readValue?, hread]

/-- Blanks, line ends and comments end where something else begins. -/
theorem skipTrivia?_eq_self (hkind : c ∉ ['\n', '\r', ' ', '\t', '#']) :
    skipTrivia? false (c :: rest) = some (c :: rest) := by
  simp at hkind
  simp [skipTrivia?, hkind, isBlank]

theorem skipTrivia?_writeChars (text rest : List Char) :
    skipTrivia? false (writeChars text ++ rest) = some (writeChars text ++ rest) := by
  obtain ⟨mark, others, hwritten, hkind⟩ := exists_writeChars_eq_cons text
  rw [hwritten]
  rcases hkind with rfl | rfl <;> exact skipTrivia?_eq_self (by decide)

/-! ### Lists of strings -/

/-- A string is an element of a list; a comma or the end of the list follows. -/
theorem readElements?_writeChars {input : List Char}
    (htrivia : skipTrivia? false input = some (writeChars text ++ c :: rest)) (hkind : c ∈ [',', ']']) :
    readElements? (fuel + 2) depth input =
      if c = ',' then
        (readElements? (fuel + 1) depth rest).map fun found =>
          (.string (String.ofList text) :: found.1, found.2)
      else some ([.string (String.ofList text)], rest) := by
  have hnext : c ≠ '"' ∧ c ≠ '\'' ∧ c ∉ ['\n', '\r', ' ', '\t', '#'] := by
    simp at hkind
    rcases hkind with rfl | rfl <;> decide
  have hvalue : readValue? (fuel + 1) depth (writeChars text ++ c :: rest) =
      some (.string (String.ofList text), c :: rest) :=
    readValue?_writeChars text (by simpa using hnext.1) (by simpa using hnext.2.1)
  have hafter : skipTrivia? false (c :: rest) = some (c :: rest) := skipTrivia?_eq_self hnext.2.2
  obtain ⟨mark, others, hwritten, hmark⟩ := exists_writeChars_eq_cons text
  have hclose : mark ≠ ']' := by
    rcases hmark with rfl | rfl <;> decide
  rw [hwritten, List.cons_append] at htrivia hvalue
  simp only [List.mem_cons, List.not_mem_nil, or_false] at hkind
  rw [readElements?, htrivia]
  rcases hkind with rfl | rfl
  · cases hfound : readElements? (fuel + 1) depth rest <;> simp [hclose, hvalue, hafter, hfound]
  · simp [hclose, hvalue, hafter]

def elementLines (texts : List (List Char)) : List Char :=
  texts.flatMap fun text => ' ' :: ' ' :: ' ' :: ' ' :: (writeChars text ++ [',', '\n'])

theorem readElements?_elementLines (texts : List (List Char)) (hfuel : texts.length < fuel) :
    readElements? fuel depth ('\n' :: (elementLines texts ++ ']' :: rest)) =
      some (texts.map fun text => .string (String.ofList text), rest) := by
  induction texts generalizing fuel with
  | nil =>
      obtain ⟨fuel, rfl⟩ : ∃ less, fuel = less + 1 := ⟨fuel - 1, by simp at hfuel; omega⟩
      simp [readElements?, elementLines, skipTrivia?, isBlank]
  | cons text texts ih =>
      rw [List.length_cons] at hfuel
      obtain ⟨fuel, rfl⟩ : ∃ less, fuel = less + 2 := ⟨fuel - 2, by omega⟩
      have hlines : elementLines (text :: texts) ++ ']' :: rest = ' ' :: ' ' :: ' ' :: ' ' ::
          (writeChars text ++ ',' :: '\n' :: (elementLines texts ++ ']' :: rest)) := by
        simp [elementLines]
      have htrivia : skipTrivia? false ('\n' :: (elementLines (text :: texts) ++ ']' :: rest)) =
          some (writeChars text ++ ',' :: '\n' :: (elementLines texts ++ ']' :: rest)) := by
        rw [← skipTrivia?_writeChars, hlines]
        simp [skipTrivia?, isBlank]
      rw [readElements?_writeChars htrivia (by simp), if_pos rfl,
        ih (show texts.length < fuel + 1 by omega)]
      rfl

theorem length_le_elementLines (texts : List (List Char)) :
    texts.length ≤ (elementLines texts).length := by
  induction texts with
  | nil => exact Nat.le_refl 0
  | cons text texts ih =>
      rw [elementLines, List.flatMap_cons, ← elementLines, List.length_append]
      simp only [List.length_cons]
      omega

theorem toList_writeStrings_several (first second : String) (others : List String) :
    (writeStrings (first :: second :: others)).toList =
      '[' :: '\n' :: (elementLines ((first :: second :: others).map String.toList) ++ [']']) := by
  simp [writeStrings, writeString, elementLines, String.toList_join, List.flatMap_map]

theorem length_lt_writeStrings (texts : List String) : texts.length < (writeStrings texts).length := by
  rw [← String.length_toList]
  match texts with
  | [] => decide
  | [only] => simp [writeStrings]
  | first :: second :: others =>
      have hlines := length_le_elementLines ((first :: second :: others).map String.toList)
      rw [List.length_map] at hlines
      rw [toList_writeStrings_several]
      simp only [List.length_cons, List.length_append] at hlines ⊢
      omega

/-- A list in whichever layout its length calls for. -/
theorem readValue?_writeStrings {texts : List String} (hfuel : texts.length + 1 < fuel) :
    readValue? fuel (depth + 1) ((writeStrings texts).toList ++ rest) =
      some (.array (texts.map .string), rest) := by
  obtain ⟨fuel, rfl⟩ : ∃ less, fuel = less + 2 := ⟨fuel - 2, by omega⟩
  match texts with
  | [] => simp [writeStrings, readValue?, readElements?, skipTrivia?, isBlank]
  | [only] =>
      obtain ⟨fuel, rfl⟩ : ∃ less, fuel = less + 1 := ⟨fuel - 1, by simp at hfuel; omega⟩
      have htrivia : skipTrivia? false (writeChars only.toList ++ ']' :: rest) =
          some (writeChars only.toList ++ ']' :: rest) := skipTrivia?_writeChars _ _
      simp [writeStrings, writeString, readValue?, readElements?_writeChars htrivia]
  | first :: second :: others =>
      have hread : readElements? (fuel + 1) depth
          ('\n' :: (elementLines ((first :: second :: others).map String.toList) ++ ']' :: rest)) = _ :=
        readElements?_elementLines _ (by simpa using hfuel)
      rw [toList_writeStrings_several, List.cons_append, List.cons_append, List.append_assoc,
        List.singleton_append, readValue?, hread]
      simp

/-! ### Keys -/

def IsBare (key : List Char) : Prop :=
  key ≠ [] ∧ ∀ c ∈ key, isKeyChar c = true

instance : Decidable (IsBare key) :=
  decidable_of_iff (key ≠ [] ∧ key.all isKeyChar = true) (by rw [IsBare, List.all_eq_true])

theorem IsBare.exists_cons (hbare : IsBare key) :
    ∃ first others, key = first :: others ∧ first ∉ [' ', '\t', '\n', '\r', '#', '"', '\'', '['] := by
  obtain ⟨first, others, rfl⟩ := List.exists_cons_of_ne_nil hbare.1
  refine ⟨first, others, rfl, fun hmem => ?_⟩
  have hfirst := hbare.2 first List.mem_cons_self
  simp at hmem
  rcases hmem with rfl | rfl | rfl | rfl | rfl | rfl | rfl | rfl <;> cases hfirst

theorem readKeyPart?_bare (hbare : IsBare key) (hnext : ∀ c ∈ rest.head?, isKeyChar c = false) :
    readKeyPart? (key ++ rest) = some (String.ofList key, rest) := by
  have hstop : rest.takeWhile isKeyChar = [] ∧ rest.dropWhile isKeyChar = rest := by
    cases rest with
    | nil => exact ⟨rfl, rfl⟩
    | cons c rest =>
        have hfirst : ¬ isKeyChar c = true := by
          simpa using hnext
        exact ⟨List.takeWhile_cons_of_neg hfirst, List.dropWhile_cons_of_neg hfirst⟩
  have htake : (key ++ rest).takeWhile isKeyChar = key := by
    rw [List.takeWhile_append_of_pos hbare.2, hstop.1, List.append_nil]
  have hdrop : (key ++ rest).dropWhile isKeyChar = rest := by
    rw [List.dropWhile_append_of_pos hbare.2, hstop.2]
  obtain ⟨first, others, rfl, hkind⟩ := hbare.exists_cons
  unfold readKeyPart?
  split
  case h_1 heq => simp [(List.cons.inj heq).1] at hkind
  case h_2 heq => simp [(List.cons.inj heq).1] at hkind
  case h_3 =>
    rw [htake, hdrop]
    rfl

/-- The blanks behind a key belong to it. -/
theorem readKey?_bare (hbare : IsBare key) (hnext : ∀ c ∈ rest.head?, isKeyChar c = false)
    (hdot : (skipBlanks rest).head? ≠ some '.') :
    readKey? (key ++ rest) = some ([String.ofList key], skipBlanks rest) := by
  have hpart := readKeyPart?_bare hbare hnext
  have hskip : skipBlanks (key ++ rest) = key ++ rest := by
    obtain ⟨first, others, rfl, hkind⟩ := hbare.exists_cons
    simp at hkind
    simp [skipBlanks, isBlank, hkind]
  rw [readKey?, show nestingLimit - 1 = 78 + 1 from rfl, readKeyParts?, hskip, hpart]
  dsimp only [Option.bind_eq_bind, Option.bind_some]
  split
  case h_1 heq => exact absurd (congrArg List.head? heq) hdot
  case h_2 => rfl

/-! ### Statements -/

theorem endLine?_line (rest : List Char) : endLine? ('\n' :: rest) = some rest := by
  simp [endLine?, skipBlanks, isBlank]

/-- The line holds a statement, whatever follows the line. -/
def Statement.WrittenAs (statement : Statement) (line : String) : Prop :=
  ∀ rest, ∃ input, skipTrivia? false (line.toList ++ rest) = some input ∧ input ≠ [] ∧
    readStatement? input = some (statement, rest)

theorem Statement.WrittenAs.header {name : String} (hbare : IsBare name.toList) :
    WrittenAs (.header [name]) ("[" ++ name ++ "]\n") := by
  intro rest
  have hkey : readKey? (name.toList ++ ']' :: '\n' :: rest) = some ([name], ']' :: '\n' :: rest) := by
    rw [readKey?_bare hbare (by simp [isKeyChar]) (by simp [skipBlanks, isBlank]), String.ofList_toList]
    rfl
  obtain ⟨first, others, hname, hkind⟩ := hbare.exists_cons
  rw [hname, List.cons_append] at hkey
  refine ⟨'[' :: (name.toList ++ ']' :: '\n' :: rest), ?_, by simp, ?_⟩
  · simp [skipTrivia?, isBlank]
  · simp at hkind
    simp [hname, readStatement?, hkind, hkey, endLine?_line]

theorem Statement.WrittenAs.after_blank {line : String} (hwritten : statement.WrittenAs line) :
    statement.WrittenAs ("\n" ++ line) := by
  intro rest
  obtain ⟨input, htrivia, hne, hread⟩ := hwritten rest
  refine ⟨input, ?_, hne, hread⟩
  rw [← htrivia]
  simp [skipTrivia?]

theorem Statement.WrittenAs.entry {name written : String} {value : Value} (hbare : IsBare name.toList)
    (hblank : ∀ c ∈ written.toList.head?, isBlank c = false)
    (hvalue : ∀ rest fuel, written.length < fuel →
      readValue? fuel (nestingLimit - 1) (written.toList ++ '\n' :: rest) = some (value, '\n' :: rest)) :
    WrittenAs (.assign [name] value) (writeEntry name written) := by
  intro rest
  have hentry : (writeEntry name written).toList ++ rest =
      name.toList ++ ' ' :: '=' :: ' ' :: (written.toList ++ '\n' :: rest) := by
    simp [writeEntry]
  have hkey : readKey? (name.toList ++ ' ' :: '=' :: ' ' :: (written.toList ++ '\n' :: rest)) =
      some ([name], '=' :: ' ' :: (written.toList ++ '\n' :: rest)) := by
    rw [readKey?_bare hbare (by simp [isKeyChar]) (by simp [skipBlanks, isBlank]), String.ofList_toList]
    rfl
  have hskip : skipBlanks (' ' :: (written.toList ++ '\n' :: rest)) = written.toList ++ '\n' :: rest := by
    cases hwritten : written.toList with
    | nil => simp [skipBlanks, isBlank]
    | cons c text =>
        have hfirst : isBlank c = false := hblank c (by simp [hwritten])
        simp [skipBlanks, show isBlank ' ' = true from rfl, hfirst]
  have hread : readValue? (written.toList.length + (rest.length + 1) + 1) (nestingLimit - 1)
      (written.toList ++ '\n' :: rest) = some (value, '\n' :: rest) :=
    hvalue rest _ (by rw [String.length_toList]; omega)
  obtain ⟨first, others, hname, hkind⟩ := hbare.exists_cons
  rw [hname, List.cons_append] at hentry hkey
  have htrivia : first ∉ ['\n', '\r', ' ', '\t', '#'] := fun hmem => hkind (by grind)
  rw [hentry]
  refine ⟨_, skipTrivia?_eq_self htrivia, List.cons_ne_nil _ _, ?_⟩
  simp at hkind
  simp [readStatement?, hkind, hkey, hskip, hread, endLine?_line]

theorem Statement.WrittenAs.string {name : String} (hbare : IsBare name.toList) (text : String) :
    WrittenAs (.assign [name] (.string text)) (writeEntry name (writeString text)) := by
  apply WrittenAs.entry hbare
  · obtain ⟨mark, others, hwritten, hkind⟩ := exists_writeChars_eq_cons text.toList
    rcases hkind with rfl | rfl <;> simp [writeString, hwritten, isBlank]
  · intro rest fuel hfuel
    obtain ⟨fuel, rfl⟩ : ∃ less, fuel = less + 1 := ⟨fuel - 1, by omega⟩
    rw [writeString, String.toList_ofList, readValue?_writeChars _ (by simp) (by simp),
      String.ofList_toList]

theorem Statement.WrittenAs.strings {name : String} (hbare : IsBare name.toList) (texts : List String) :
    WrittenAs (.assign [name] (.array (texts.map .string))) (writeEntry name (writeStrings texts)) := by
  apply WrittenAs.entry hbare
  · match texts with
    | [] => simp [writeStrings, isBlank]
    | [_] => simp [writeStrings, isBlank]
    | _ :: _ :: _ => simp [writeStrings, isBlank]
  · intro rest fuel hfuel
    have hlength := length_lt_writeStrings texts
    exact readValue?_writeStrings (by omega)

theorem Statement.WrittenAs.natural {name : String} {value : Nat} (hbare : IsBare name.toList)
    (hrange : value < wordCount 63) :
    WrittenAs (.assign [name] (.integer value)) (writeEntry name (toString value)) := by
  apply WrittenAs.entry hbare
  · intro c hmem
    have hdigit : c.isDigit = true := by
      rw [Nat.toString_eq_repr, Nat.toList_repr] at hmem
      exact Nat.isDigit_of_mem_toDigits (by decide) (by decide) (List.mem_of_mem_head? hmem)
    apply Bool.eq_false_iff.mpr
    intro hblank
    simp [isBlank] at hblank
    rcases hblank with rfl | rfl <;> cases hdigit
  · intro rest fuel hfuel
    obtain ⟨fuel, rfl⟩ : ∃ less, fuel = less + 1 := ⟨fuel - 1, by omega⟩
    exact readValue?_toString hrange

/-! ### Documents -/

variable {statements : List Statement} {lines : List String}

theorem Statement.WrittenAs.length_pos {line : String} (hwritten : statement.WrittenAs line) :
    0 < line.toList.length := by
  obtain ⟨input, htrivia, hne, -⟩ := hwritten []
  apply List.length_pos_of_ne_nil
  intro hempty
  rw [hempty] at htrivia
  cases htrivia
  exact hne rfl

theorem length_le_of_writtenAs (hwritten : List.Forall₂ Statement.WrittenAs statements lines) :
    statements.length ≤ (lines.flatMap String.toList).length := by
  induction hwritten with
  | nil => exact Nat.le_refl 0
  | cons hline hlines ih =>
      have hpositive := hline.length_pos
      rw [List.flatMap_cons, List.length_append, List.length_cons]
      omega

theorem readStatements?_flatMap (hwritten : List.Forall₂ Statement.WrittenAs statements lines)
    (hfuel : statements.length < fuel) :
    readStatements? fuel (lines.flatMap String.toList) = some statements := by
  obtain ⟨fuel, rfl⟩ : ∃ less, fuel = less + 1 := ⟨fuel - 1, by omega⟩
  induction hwritten generalizing fuel with
  | nil => rfl
  | @cons statement line statements lines hline hlines ih =>
      rw [List.length_cons] at hfuel
      obtain ⟨fuel, rfl⟩ : ∃ less, fuel = less + 1 := ⟨fuel - 1, by omega⟩
      obtain ⟨input, htrivia, hne, hread⟩ := hline (lines.flatMap String.toList)
      have hrest := ih fuel (by omega)
      obtain ⟨c, input, rfl⟩ := List.exists_cons_of_ne_nil hne
      rw [List.flatMap_cons, readStatements?, htrivia]
      simp [hread, hrest]

/-- A document whose lines hold statements is assembled from these. -/
theorem read?_join (hwritten : List.Forall₂ Statement.WrittenAs statements lines)
    (hmark : (String.join lines).toList.head? ≠ some '\uFEFF') :
    read? (String.join lines) = assemble? statements := by
  have hskip : skipMark (String.join lines).toList = (String.join lines).toList := by
    unfold skipMark
    split
    case h_1 heq => simp [heq] at hmark
    case h_2 => rfl
  have hfuel := Nat.lt_succ_of_le (length_le_of_writtenAs hwritten)
  rw [read?, hskip, String.toList_join, readStatements?_flatMap hwritten hfuel]
  rfl

end ReplicaPool.Toml
