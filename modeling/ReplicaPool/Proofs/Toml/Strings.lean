import Mathlib.Tactic.SplitIfs
import ReplicaPool.Toml.Literal
import ReplicaPool.Toml.Writer

/-!
# Strings are read as they were written

A string is written in one of four forms, which differ in what they escape and in how they end. The reader
of each form gives the string back. What follows a string must not begin with a mark: up to two marks in
front of the three that end a string of several lines still belong to it.
-/

namespace ReplicaPool.Toml

variable {text more rest written : List Char} {c : Char}

-- the proofs follow the readers character by character
attribute [local simp] readBasic? readLines? readLiteral? readLiteralLines?

/-! ### Escapes -/

theorem isPlain_of_not_isCode (hcode : isCode c = false) (hline : c ≠ '\n') : isPlain c = true := by
  simp [isCode] at hcode
  simp [isPlain]
  by_cases htab : c = '\t'
  · exact Or.inl htab
  · exact Or.inr ⟨Nat.le_of_not_lt fun hlow => hline (hcode.1 hlow htab), hcode.2⟩

theorem scalar?_of_isCode (hcode : isCode c = true) :
    scalar? ['0', '0', capitalDigit (c.toNat / 16), capitalDigit (c.toNat % 16)] = some c := by
  have hall : ∀ value < 128,
      scalar? ['0', '0', capitalDigit (value / 16), capitalDigit (value % 16)] =
        some (Char.ofNat value) := by
    decide +kernel
  have hlow : c.toNat < 128 := by
    simp [isCode] at hcode
    omega
  rw [hall c.toNat hlow, Char.ofNat_toNat]

inductive Escaped (c : Char) : List Char → Prop
  | short {mark : Char} (hmark : shortEscapes.lookup mark = some c)
      (hkind : mark ∉ ['u', 'U', ' ', '\t', '\n', '\r']) : Escaped c ['\\', mark]
  | coded (hcode : isCode c = true) :
      Escaped c ['\\', 'u', '0', '0', capitalDigit (c.toNat / 16), capitalDigit (c.toNat % 16)]
  | plain (hplain : isPlain c = true) (hkind : c ∉ ['"', '\\', '\n', '\r']) : Escaped c [c]

theorem escaped_quote : Escaped '"' ['\\', '"'] := .short rfl (by decide)

theorem escaped_escapeChar (hquote : c ≠ '"') : Escaped c (escapeChar c) := by
  unfold escapeChar
  split_ifs with hback htab hline hfeed hreturn hslash hcode
  · subst hback
    exact .short rfl (by decide)
  · subst htab
    exact .short rfl (by decide)
  · subst hline
    exact .short rfl (by decide)
  · subst hfeed
    exact .short rfl (by decide)
  · subst hreturn
    exact .short rfl (by decide)
  · subst hslash
    exact .short rfl (by decide)
  · exact .coded hcode
  · exact .plain (isPlain_of_not_isCode (by simpa using hcode) hline) (by simp [*])

/-- A written form begins with a backslash, or with the character itself if that is harmless. -/
theorem Escaped.exists_cons (hescaped : Escaped c written) :
    ∃ first others, written = first :: others ∧ first ∉ ['"', '\n', '\r'] := by
  cases hescaped with
  | short => exact ⟨_, _, rfl, by decide⟩
  | coded => exact ⟨_, _, rfl, by decide⟩
  | plain hplain hkind => exact ⟨_, _, rfl, fun hmem => hkind (by grind)⟩

theorem readBasic?_escaped (hescaped : Escaped c written) :
    readBasic? (written ++ more) = consTo c (readBasic? more) := by
  cases hescaped with
  | short hmark hkind =>
      simp at hkind
      simp [hmark, hkind]
  | coded hcode => simp [scalar?_of_isCode hcode]
  | plain hplain hkind =>
      simp at hkind
      simp [hplain, hkind]

theorem readLines?_escaped (hescaped : Escaped c written) :
    readLines? false (written ++ more) = consTo c (readLines? false more) := by
  cases hescaped with
  | @short mark hmark hkind =>
      simp at hkind
      have hgoesOn : startsLine (skipBlanks (mark :: more)) = false := by
        simp [skipBlanks, isBlank, hkind, startsLine]
      simp [hmark, hkind, hgoesOn]
  | coded hcode => simp [scalar?_of_isCode hcode]
  | plain hplain hkind =>
      simp at hkind
      simp [hplain, hkind]

/-! ### Strings on one line -/

theorem escaped_escapeInLine (c : Char) :
    Escaped c (if c = '"' then ['\\', '"'] else escapeChar c) := by
  split_ifs with hquote
  · exact hquote ▸ escaped_quote
  · exact escaped_escapeChar hquote

theorem readBasic?_escapeLine (text rest : List Char) :
    readBasic? (escapeLine text ++ '"' :: rest) = some (text, rest) := by
  induction text with
  | nil => rfl
  | cons c text ih =>
      rw [escapeLine, List.flatMap_cons, List.append_assoc, readBasic?_escaped (escaped_escapeInLine c),
        ← escapeLine, ih]
      rfl

theorem readLiteral?_text (hplain : ∀ c ∈ text, isPlain c = true) (hmark : '\'' ∉ text) :
    readLiteral? (text ++ '\'' :: rest) = some (text, rest) := by
  induction text with
  | nil => rfl
  | cons c text ih =>
      have hne : c = '\'' → False := fun heq => hmark (heq ▸ List.mem_cons_self)
      have hrest : readLiteral? (text ++ '\'' :: rest) = some (text, rest) :=
        ih (fun other hmem => hplain other (List.mem_cons_of_mem c hmem))
          (fun hmem => hmark (List.mem_cons_of_mem c hmem))
      simp [hplain c, hrest, consTo]

/-! ### Strings of several lines -/

theorem readLines?_close (hrest : rest.head? ≠ some '"') :
    readLines? false ('"' :: '"' :: '"' :: rest) = some ([], rest) := by
  rcases rest with _ | ⟨c, rest⟩
  · rfl
  · have hne : c ≠ '"' := fun heq => hrest (heq ▸ rfl)
    simp [hne]

theorem readLines?_close_one (hrest : rest.head? ≠ some '"') :
    readLines? false ('"' :: '"' :: '"' :: '"' :: rest) = some (['"'], rest) := by
  rcases rest with _ | ⟨c, rest⟩
  · rfl
  · have hne : c ≠ '"' := fun heq => hrest (heq ▸ rfl)
    simp [hne]

/-- A quote is read as such unless it begins three in a row. -/
theorem readLines?_quote (hmore : more.head? ≠ some '"') :
    readLines? false ('"' :: more) = consTo '"' (readLines? false more) := by
  rcases more with _ | ⟨c, more⟩
  · rfl
  · have hne : c ≠ '"' := fun heq => hmore (heq ▸ rfl)
    have hplain : isPlain '"' = true := rfl
    simp [hne, hplain]

theorem readLines?_quote_quote (hmore : more.head? ≠ some '"') :
    readLines? false ('"' :: '"' :: more) = consTo '"' (consTo '"' (readLines? false more)) := by
  rw [← readLines?_quote hmore]
  rcases more with _ | ⟨c, more⟩
  · rfl
  · have hne : c ≠ '"' := fun heq => hmore (heq ▸ rfl)
    have hplain : isPlain '"' = true := rfl
    simp [hne, hplain]

/-- As long as something else follows, up to two quotes in a row are read as such. -/
theorem readLines?_replicate {quotes : Nat} (hquotes : quotes ≤ 2) (hmore : more.head? ≠ some '"') :
    readLines? false (List.replicate quotes '"' ++ more) =
      (readLines? false more).map fun found => (List.replicate quotes '"' ++ found.1, found.2) := by
  obtain rfl | rfl | rfl : quotes = 0 ∨ quotes = 1 ∨ quotes = 2 := by omega
  · simp
  · rw [List.replicate_one, List.singleton_append, readLines?_quote hmore]
    cases readLines? false more <;> rfl
  · change readLines? false ('"' :: '"' :: more) = _
    rw [readLines?_quote_quote hmore]
    cases readLines? false more <;> rfl

/-- A character other than a quote ends a row of quotes. -/
theorem exists_escapeLines_cons (quotes : Nat) (hquote : c ≠ '"') (text : List Char) :
    ∃ first others, escapeLines quotes (c :: text) = first :: others ++ escapeLines 0 text ∧
      first ≠ '"' ∧ first ≠ '\r' ∧ (first = '\n' → c = '\n') ∧
      ∀ more, readLines? false (first :: others ++ more) = consTo c (readLines? false more) := by
  by_cases hline : c = '\n'
  · subst hline
    exact ⟨'\n', [], by simp [escapeLines], by decide, by decide, fun _ => rfl,
      fun more => by simp⟩
  · have hescaped := escaped_escapeChar hquote
    obtain ⟨first, others, hwritten, hfirst⟩ := hescaped.exists_cons
    simp only [List.mem_cons, List.not_mem_nil, or_false, not_or] at hfirst
    refine ⟨first, others, ?_, hfirst.1, hfirst.2.2, fun heq => absurd heq hfirst.2.1, fun more => ?_⟩
    · rw [← hwritten]
      simp [escapeLines]
    · rw [← hwritten, readLines?_escaped hescaped]

/-- The quotes that were just written are a part of the claim, because the reader looks two quotes ahead. -/
theorem readLines?_escapeLines (text : List Char) (hrest : rest.head? ≠ some '"') {quotes : Nat}
    (hquotes : quotes ≤ 2) :
    readLines? false
        (List.replicate quotes '"' ++ (escapeLines quotes text ++ '"' :: '"' :: '"' :: rest)) =
      some (List.replicate quotes '"' ++ text, rest) := by
  induction text generalizing quotes with
  | nil =>
      obtain rfl | rfl | rfl : quotes = 0 ∨ quotes = 1 ∨ quotes = 2 := by omega
      · exact readLines?_close hrest
      · exact readLines?_close_one hrest
      · rfl
  | cons c text ih =>
      by_cases hquote : c = '"'
      · subst hquote
        by_cases hthird : quotes = 2
        · subst hthird
          have hescape : escapeLines 2 ('"' :: text) = ['\\', '"'] ++ escapeLines 0 text := rfl
          have hread := ih (Nat.zero_le 2)
          rw [List.replicate_zero, List.nil_append, List.nil_append] at hread
          rw [hescape, List.append_assoc, readLines?_replicate hquotes (by simp),
            readLines?_escaped escaped_quote, hread]
          rfl
        · have hescape : escapeLines quotes ('"' :: text) = '"' :: escapeLines (quotes + 1) text := by
            simp [escapeLines, hthird]
          have hread := ih (show quotes + 1 ≤ 2 by omega)
          rw [List.replicate_succ', List.append_assoc, List.append_assoc, List.singleton_append,
            List.singleton_append] at hread
          rw [hescape, List.cons_append, hread]
      · obtain ⟨first, others, hescape, hfirst, -, -, hread⟩ := exists_escapeLines_cons quotes hquote text
        have hrec := ih (Nat.zero_le 2)
        rw [List.replicate_zero, List.nil_append, List.nil_append] at hrec
        rw [hescape, List.append_assoc, readLines?_replicate hquotes (by simpa using hfirst), hread, hrec]
        rfl

/-- A mark is read as such unless it begins three in a row. -/
theorem readLiteralLines?_cons (hplain : c = '\n' ∨ isPlain c = true)
    (hmark : c = '\'' → ¬ ['\'', '\''] <+: more) :
    readLiteralLines? (c :: more) = consTo c (readLiteralLines? more) := by
  by_cases hline : c = '\n'
  · subst hline
    simp
  · have hplain := hplain.resolve_left hline
    have hreturn : c ≠ '\r' := by
      rintro rfl
      cases hplain
    by_cases hquote : c = '\''
    · subst hquote
      rcases more with _ | ⟨a, _ | ⟨b, more⟩⟩
      · rfl
      · simp [hplain]
      · by_cases hsecond : a = '\''
        · subst hsecond
          have hthird : b ≠ '\'' := by
            rintro rfl
            exact hmark rfl ⟨more, rfl⟩
          simp [hplain, hthird]
        · simp [hplain, hsecond]
    · simp [hplain, hreturn, hquote]

theorem hasTriple_of_cons {mark : Char} (htriple : hasTriple mark (c :: text) = false) :
    hasTriple mark text = false := by
  rcases text with _ | ⟨a, _ | ⟨b, text⟩⟩
  · rfl
  · rfl
  · rw [hasTriple, Bool.or_eq_false_iff] at htriple
    exact htriple.2

theorem readLiteralLines?_close (hrest : rest.head? ≠ some '\'') :
    readLiteralLines? ('\'' :: '\'' :: '\'' :: rest) = some ([], rest) := by
  rcases rest with _ | ⟨c, rest⟩
  · rfl
  · have hne : c ≠ '\'' := fun heq => hrest (heq ▸ rfl)
    simp [hne]

theorem readLiteralLines?_close_one (hrest : rest.head? ≠ some '\'') :
    readLiteralLines? ('\'' :: '\'' :: '\'' :: '\'' :: rest) = some (['\''], rest) := by
  rcases rest with _ | ⟨c, rest⟩
  · rfl
  · have hne : c ≠ '\'' := fun heq => hrest (heq ▸ rfl)
    simp [hne]

theorem readLiteralLines?_text (hplain : ∀ c ∈ text, c = '\n' ∨ isPlain c = true)
    (htriple : hasTriple '\'' text = false) (hrest : rest.head? ≠ some '\'') :
    readLiteralLines? (text ++ '\'' :: '\'' :: '\'' :: rest) = some (text, rest) := by
  induction text with
  | nil => exact readLiteralLines?_close hrest
  | cons c text ih =>
      have hrec := ih (fun other hmem => hplain other (List.mem_cons_of_mem c hmem))
        (hasTriple_of_cons htriple)
      by_cases hlast : c = '\'' ∧ ['\'', '\''] <+: text ++ '\'' :: '\'' :: '\'' :: rest
      · -- The row of marks that begins here goes on to the end of the string.
        obtain ⟨rfl, htwo⟩ := hlast
        rcases text with _ | ⟨a, _ | ⟨b, text⟩⟩
        · exact readLiteralLines?_close_one hrest
        · obtain rfl : '\'' = a := (List.cons_prefix_cons.mp htwo).1
          rfl
        · obtain ⟨rfl, hthird⟩ := List.cons_prefix_cons.mp htwo
          obtain rfl := (List.cons_prefix_cons.mp hthird).1
          cases htriple
      · rw [List.cons_append, readLiteralLines?_cons (hplain c List.mem_cons_self)
          (fun hmark htwo => hlast ⟨hmark, htwo⟩), hrec]
        rfl

/-! ### All forms -/

theorem readString?_escapeLine (text : List Char) (hrest : rest.head? ≠ some '"') :
    readString? ('"' :: (escapeLine text ++ '"' :: rest)) = some (text, rest) := by
  rw [← readBasic?_escapeLine text rest]
  rcases text with _ | ⟨c, text⟩
  · rcases rest with _ | ⟨c, rest⟩
    · rfl
    · have hne : c ≠ '"' := fun heq => hrest (heq ▸ rfl)
      simp [escapeLine, readString?, hne]
  · obtain ⟨first, others, hfirst, hkind⟩ := (escaped_escapeInLine c).exists_cons
    rw [escapeLine, List.flatMap_cons, hfirst]
    simp at hkind
    simp [readString?, hkind]

theorem readString?_literal (hne : text ≠ []) (hplain : ∀ c ∈ text, isPlain c = true)
    (hmark : '\'' ∉ text) :
    readString? ('\'' :: (text ++ '\'' :: rest)) = some (text, rest) := by
  obtain ⟨c, others, rfl⟩ := List.exists_cons_of_ne_nil hne
  have hfirst : c ≠ '\'' := fun heq => hmark (heq ▸ List.mem_cons_self)
  rw [← readLiteral?_text hplain hmark]
  simp [readString?, hfirst]

/-- The line end in front of a text of several lines is not a part of it. Without one, the text does not
begin with a line end. -/
theorem skipLineEnd_leadingLine {body : List Char}
    (hbody : ∀ first ∈ body.head?, first ≠ '\r' ∧ (first = '\n' → '\n' ∈ text)) :
    skipLineEnd (leadingLine text ++ body) = body := by
  unfold leadingLine
  split_ifs with hline
  · rfl
  · rcases body with _ | ⟨first, body⟩
    · rfl
    · obtain ⟨hreturn, hfirst⟩ := hbody first rfl
      have hne : first ≠ '\n' := fun heq => hline (by simpa using hfirst heq)
      simp [skipLineEnd, hne, hreturn]

theorem readString?_escapeLines (text : List Char) (hrest : rest.head? ≠ some '"') :
    readString? ('"' :: '"' :: '"' :: (leadingLine text ++ (escapeLines 0 text ++
      '"' :: '"' :: '"' :: rest))) = some (text, rest) := by
  have hread := readLines?_escapeLines text hrest (Nat.zero_le 2)
  rw [List.replicate_zero, List.nil_append, List.nil_append] at hread
  rw [readString?, skipLineEnd_leadingLine, hread]
  rcases text with _ | ⟨c, text⟩
  · simp [escapeLines]
  · by_cases hquote : c = '"'
    · subst hquote
      simp [escapeLines]
    · obtain ⟨first, others, hescape, -, hreturn, hline, -⟩ := exists_escapeLines_cons 0 hquote text
      rw [hescape]
      simp only [List.cons_append, List.head?_cons, Option.mem_def, Option.some.injEq, forall_eq']
      exact ⟨hreturn, fun heq => hline heq ▸ List.mem_cons_self⟩

theorem readString?_literalLines (hplain : ∀ c ∈ text, c = '\n' ∨ isPlain c = true)
    (htriple : hasTriple '\'' text = false) (hrest : rest.head? ≠ some '\'') :
    readString? ('\'' :: '\'' :: '\'' :: (leadingLine text ++ (text ++
      '\'' :: '\'' :: '\'' :: rest))) = some (text, rest) := by
  rw [readString?, skipLineEnd_leadingLine, readLiteralLines?_text hplain htriple hrest]
  rcases text with _ | ⟨c, text⟩
  · simp
  · simp only [List.cons_append, List.head?_cons, Option.mem_def, Option.some.injEq, forall_eq']
    refine ⟨?_, fun heq => heq ▸ List.mem_cons_self⟩
    rintro rfl
    rcases hplain '\r' List.mem_cons_self with hline | hline <;> cases hline

/-- Only a text with a backslash or a quote, so not an empty one, is written in the literal form. -/
theorem of_formOf_eq_literal (hform : formOf text = .literal) :
    text ≠ [] ∧ (∀ c ∈ text, isCode c = false) ∧ '\'' ∉ text ∧ '\n' ∉ text := by
  unfold formOf at hform
  dsimp only at hform
  split_ifs at hform with hbasic hliteral
  simp only [Bool.and_eq_true, Bool.not_eq_true', List.any_eq_false, Bool.not_eq_true,
    List.contains_eq_mem, decide_eq_false_iff_not] at hliteral
  obtain ⟨⟨hcode, hmark⟩, hline⟩ := hliteral
  refine ⟨?_, hcode, hmark, hline⟩
  rintro rfl
  exact hbasic rfl

theorem of_formOf_eq_literalLines (hform : formOf text = .literalLines) :
    (∀ c ∈ text, isCode c = false) ∧ hasTriple '\'' text = false := by
  unfold formOf at hform
  dsimp only at hform
  split_ifs at hform with _ _ _ hliteral
  simpa using hliteral

/-- A string in whatever form is read back, and the reader stops right behind it. -/
theorem readString?_writeChars (text : List Char) (hquote : rest.head? ≠ some '"')
    (hmark : rest.head? ≠ some '\'') :
    readString? (writeChars text ++ rest) = some (text, rest) := by
  unfold writeChars
  cases hform : formOf text with
  | basic => simpa using readString?_escapeLine text hquote
  | literal =>
      obtain ⟨hne, hcode, habsent, hline⟩ := of_formOf_eq_literal hform
      have hplain : ∀ c ∈ text, isPlain c = true := fun c hmem =>
        isPlain_of_not_isCode (hcode c hmem) (fun heq => hline (heq ▸ hmem))
      simpa using readString?_literal hne hplain habsent
  | basicLines => simpa using readString?_escapeLines text hquote
  | literalLines =>
      obtain ⟨hcode, htriple⟩ := of_formOf_eq_literalLines hform
      have hplain : ∀ c ∈ text, c = '\n' ∨ isPlain c = true := fun c hmem =>
        Classical.or_iff_not_imp_left.mpr (isPlain_of_not_isCode (hcode c hmem))
      simpa using readString?_literalLines hplain htriple hmark

/-- A written string begins with a mark. -/
theorem exists_writeChars_eq_cons (text : List Char) :
    ∃ mark others, writeChars text = mark :: others ∧ (mark = '"' ∨ mark = '\'') := by
  unfold writeChars
  cases formOf text <;> exact ⟨_, _, rfl, by simp⟩

end ReplicaPool.Toml
