import SelectLang.Text.Quoted

/-!
# Reading quoted texts

The escapes of a quoted text are undone from the left to the right.  Each character shows where its
escape ends, a number by the brace behind it; so what stands for one character is read before a look
at what stands for the next, and a text comes back whatever it holds (`unescape_flatMap_escape`).
All that a quoted text is written with is printable (`isPrintable_of_mem_quoted`), and no printable
character controls the display or ends a line (`isControl_eq_false_of_isPrintable`).
-/

namespace SelectLang.Text

/-! ## Digits in base sixteen -/

/-- The value of a digit in base sixteen; letters count in either case. -/
def hexDigit? (c : Char) : Option Nat :=
  if '0' ≤ c ∧ c ≤ '9' then some (c.toNat - '0'.toNat)
  else if 'a' ≤ c ∧ c ≤ 'f' then some (c.toNat - 'a'.toNat + 10)
  else if 'A' ≤ c ∧ c ≤ 'F' then some (c.toNat - 'A'.toNat + 10)
  else none

theorem hexDigit?_digitChar {d : Nat} (h : d < 16) : hexDigit? d.digitChar = some d := by
  have hall : ∀ d < 16, hexDigit? d.digitChar = some d := by decide
  exact hall d h

theorem digitChar_ne {c : Char} (hc : hexDigit? c = none) {d : Nat} (h : d < 16) :
    d.digitChar ≠ c := by
  rintro rfl
  rw [hexDigit?_digitChar h] at hc
  cases hc

/-! ## Undoing the escapes -/

/-- The character that a letter stands for behind a backslash. -/
def shortMeaning? : Char → Option Char
  | '0' => some '\x00'
  | 't' => some '\t'
  | 'r' => some '\r'
  | 'n' => some '\n'
  | '\\' => some '\\'
  | '"' => some '"'
  | _ => none

mutual

/-- The text that stands between the quotes of a quoted text.  A quote that no backslash precedes
cannot stand there. -/
def unescape : List Char → Option (List Char)
  | [] => some []
  | c :: cs =>
      if c = '\\' then unescapeMark cs
      else if c = '"' then none
      else (unescape cs).map (c :: ·)

/-- The text from a backslash on. -/
def unescapeMark : List Char → Option (List Char)
  | [] => none
  | 'u' :: '{' :: cs => unescapeNumber 0 cs
  | letter :: cs => (shortMeaning? letter).bind fun c => (unescape cs).map (c :: ·)

/-- The text from a number on, of which the digits read so far stand for `n`. -/
def unescapeNumber (n : Nat) : List Char → Option (List Char)
  | [] => none
  | c :: cs =>
      if c = '}' then
        if n.isValidChar then (unescape cs).map (Char.ofNat n :: ·) else none
      else (hexDigit? c).bind fun d => unescapeNumber (16 * n + d) cs

end

theorem shortMeaning?_of_shortEscape? {c letter : Char} (h : shortEscape? c = some letter) :
    shortMeaning? letter = some c := by
  unfold shortEscape? at h
  split at h <;> first | (obtain rfl := Option.some.inj h; rfl) | cases h

theorem unescape_short {c letter : Char} (h : shortEscape? c = some letter) (rest : List Char) :
    unescape ('\\' :: letter :: rest) = (unescape rest).map (c :: ·) := by
  have hmeaning := shortMeaning?_of_shortEscape? h
  have hletter : letter ≠ 'u' := by
    rintro rfl
    cases hmeaning
  have hmark : unescapeMark (letter :: rest) = (unescape rest).map (c :: ·) := by
    rw [unescapeMark.eq_3 _ _ (by simp [hletter]), hmeaning, Option.bind_some]
  simpa [unescape] using hmark

theorem unescapeNumber_digitChar {d : Nat} (h : d < 16) (n : Nat) (rest : List Char) :
    unescapeNumber n (d.digitChar :: rest) = unescapeNumber (16 * n + d) rest := by
  rw [unescapeNumber, if_neg (digitChar_ne (by decide) h), hexDigit?_digitChar h]
  rfl

/-- The digits of a number are read back. -/
theorem unescapeNumber_toDigits (n : Nat) (rest : List Char) :
    unescapeNumber 0 (Nat.toDigits 16 n ++ rest) = unescapeNumber n rest := by
  induction n using Nat.strongRecOn generalizing rest with
  | ind n ih =>
    rw [Nat.toDigits_eq_if (by decide)]
    split
    · rename_i hlt
      simp [unescapeNumber_digitChar hlt]
    · have hdiv : n / 16 < n := Nat.div_lt_self (by omega) (by decide)
      rw [List.append_assoc, ih _ hdiv, List.singleton_append,
        unescapeNumber_digitChar (Nat.mod_lt n (by decide)), Nat.div_add_mod]

theorem unescape_number (c : Char) (rest : List Char) :
    unescape ('\\' :: 'u' :: '{' :: (Nat.toDigits 16 c.toNat ++ '}' :: rest)) =
      (unescape rest).map (c :: ·) := by
  have hnumber : unescapeNumber 0 (Nat.toDigits 16 c.toNat ++ '}' :: rest) =
      (unescape rest).map (c :: ·) := by
    have hvalid : c.toNat.isValidChar := c.valid
    rw [unescapeNumber_toDigits, unescapeNumber, if_pos rfl, if_pos hvalid, Char.ofNat_toNat]
  simpa [unescape, unescapeMark] using hnumber

/-- What stands for one character is read before a look at what follows. -/
theorem unescape_escape_append (c : Char) (rest : List Char) :
    unescape (escape c ++ rest) = (unescape rest).map (c :: ·) := by
  unfold escape
  split
  · rename_i letter h
    exact unescape_short h rest
  · rename_i h
    by_cases hnumber : (isExtender c || !isPrintable c) = true
    · rw [if_pos hnumber]
      simpa using unescape_number c rest
    · rw [if_neg hnumber]
      have hmark : c ≠ '\\' := by
        rintro rfl
        cases h
      have hquote : c ≠ '"' := by
        rintro rfl
        cases h
      simp [unescape, hmark, hquote]

theorem unescape_flatMap_escape (cs : List Char) : unescape (cs.flatMap escape) = some cs := by
  induction cs with
  | nil => rfl
  | cons c cs ih => rw [List.flatMap_cons, unescape_escape_append, ih, Option.map_some]

/-! ## Printable texts -/

/-- The character is a control character, of general category Cc. -/
def isControl (c : Char) : Bool := c.toNat < 0x20 || (0x7F ≤ c.toNat && c.toNat < 0xA0)

theorem isControl_eq_false_of_isPrintable {c : Char} (h : isPrintable c = true) :
    isControl c = false := by
  have hall : ∀ n < 0xA0, n < 0x20 ∨ 0x7F ≤ n → inRanges n unprintableRanges = true := by
    decide +kernel
  rw [Bool.eq_false_iff]
  intro hcontrol
  simp only [isControl, Bool.or_eq_true, Bool.and_eq_true, decide_eq_true_eq] at hcontrol
  have hrange := hall c.toNat (by omega) (by omega)
  simp [isPrintable, hrange] at h

theorem isPrintable_of_ascii {c : Char} (h : 0x20 ≤ c.toNat) (h' : c.toNat < 0x7F) :
    isPrintable c = true := by
  have hall : ∀ n < 0x7F, 0x20 ≤ n → inRanges n unprintableRanges = false := by
    decide +kernel
  rw [isPrintable, hall c.toNat h' h]
  rfl

theorem isPrintable_digitChar {d : Nat} (h : d < 16) : isPrintable d.digitChar = true := by
  have hall : ∀ d < 16, 0x20 ≤ d.digitChar.toNat ∧ d.digitChar.toNat < 0x7F := by decide
  exact isPrintable_of_ascii (hall d h).1 (hall d h).2

theorem exists_digit_of_mem_toDigits {n : Nat} {c : Char} (h : c ∈ Nat.toDigits 16 n) :
    ∃ d < 16, c = d.digitChar := by
  induction n using Nat.strongRecOn with
  | ind n ih =>
    rw [Nat.toDigits_eq_if (by decide)] at h
    split at h
    · rename_i hlt
      exact ⟨n, hlt, List.mem_singleton.1 h⟩
    · rcases List.mem_append.1 h with h | h
      · exact ih _ (Nat.div_lt_self (by omega) (by decide)) h
      · exact ⟨n % 16, Nat.mod_lt n (by decide), List.mem_singleton.1 h⟩

theorem isPrintable_of_mem_escape {c d : Char} (h : d ∈ escape c) : isPrintable d = true := by
  unfold escape at h
  split at h
  · rename_i letter hletter
    have hascii : 0x20 ≤ letter.toNat ∧ letter.toNat < 0x7F := by
      unfold shortEscape? at hletter
      split at hletter <;> first | (obtain rfl := Option.some.inj hletter; decide) | cases hletter
    simp only [List.mem_cons, List.not_mem_nil, or_false] at h
    rcases h with rfl | rfl
    · exact isPrintable_of_ascii (by decide) (by decide)
    · exact isPrintable_of_ascii hascii.1 hascii.2
  · by_cases hnumber : (isExtender c || !isPrintable c) = true
    · rw [if_pos hnumber] at h
      simp only [List.mem_append, List.mem_cons, List.not_mem_nil, or_false] at h
      rcases h with ((rfl | rfl | rfl) | h) | rfl
      · exact isPrintable_of_ascii (by decide) (by decide)
      · exact isPrintable_of_ascii (by decide) (by decide)
      · exact isPrintable_of_ascii (by decide) (by decide)
      · obtain ⟨digit, hlt, rfl⟩ := exists_digit_of_mem_toDigits h
        exact isPrintable_digitChar hlt
      · exact isPrintable_of_ascii (by decide) (by decide)
    · rw [if_neg hnumber] at h
      obtain rfl := List.mem_singleton.1 h
      simp only [Bool.or_eq_true, Bool.not_eq_true', not_or, Bool.not_eq_false] at hnumber
      exact hnumber.2

theorem isPrintable_of_mem_quoted {cs : List Char} {c : Char} (h : c ∈ quoted cs) :
    isPrintable c = true := by
  simp only [quoted, List.cons_append, List.mem_cons, List.mem_append, List.mem_flatMap,
    List.not_mem_nil, or_false] at h
  rcases h with rfl | ⟨d, -, hc⟩ | rfl
  · exact isPrintable_of_ascii (by decide) (by decide)
  · exact isPrintable_of_mem_escape hc
  · exact isPrintable_of_ascii (by decide) (by decide)

end SelectLang.Text
