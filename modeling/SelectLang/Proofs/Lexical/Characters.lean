import SelectLang.Proofs.Lexical.Grammar
import SelectLang.Token.Lexeme

/-!
# Characters of lexemes

Which characters a lexeme can begin with.  Blanks are neither letters nor digits, an ASCII digit is
no letter, and the characters of the symbols are none of these; so the first character of a text
tells which sort of lexeme stands there.
-/

namespace SelectLang

open Text

/-! ## Disjoint properties -/

theorem inRanges_eq_false_of_disjoint {rs ss : List Range} (hr : Ascending rs) (hs : Ascending ss)
    (hdisjoint : ∀ r ∈ rs, ∀ s ∈ ss, r.2 < s.1 ∨ s.2 < r.1) {n : Nat}
    (h : inRanges n rs = true) : inRanges n ss = false := by
  rw [Bool.eq_false_iff]
  intro h'
  obtain ⟨r, hrmem, hrn⟩ := (hr.mem_iff n).1 h
  obtain ⟨s, hsmem, hsn⟩ := (hs.mem_iff n).1 h'
  rcases hdisjoint r hrmem s hsmem with hlt | hlt
  · omega
  · omega

theorem isAlphabetic_eq_false_of_isBlank {c : Char} (h : isBlank c = true) :
    isAlphabetic c = false :=
  inRanges_eq_false_of_disjoint ascending_blankRanges ascending_alphabeticRanges
    (by decide +kernel) h

theorem isNumeric_eq_false_of_isBlank {c : Char} (h : isBlank c = true) :
    isNumeric c = false :=
  inRanges_eq_false_of_disjoint ascending_blankRanges ascending_numericRanges
    (by decide +kernel) h

theorem isAlphabetic_eq_false_of_isDigit {c : Char} (h : c.isDigit = true) :
    isAlphabetic c = false := by
  have hrange : inRanges c.toNat [(0x30, 0x39)] = true := by
    simp only [Char.isDigit, Bool.and_eq_true, decide_eq_true_eq] at h
    have hle : 48 ≤ c.toNat ∧ c.toNat ≤ 57 := h
    simp [inRanges, hle.1, hle.2]
  exact inRanges_eq_false_of_disjoint (by decide) ascending_alphabeticRanges
    (by decide +kernel) hrange

/-! ## Letters and digits of words -/

theorem beginsWord_iff {c : Char} : beginsWord c = true ↔ isAlphabetic c = true ∨ c = '_' := by
  simp [beginsWord]

theorem continuesWord_iff {c : Char} :
    continuesWord c = true ↔ isAlphabetic c = true ∨ isNumeric c = true ∨ c = '_' := by
  simp [continuesWord, or_assoc]

theorem continuesWord_of_isDigit {c : Char} (h : c.isDigit = true) : continuesWord c = true :=
  continuesWord_iff.2 (Or.inr (Or.inl (isNumeric_of_isDigit h)))

theorem isDigit_of_mem_repr {n : Nat} {c : Char} (h : c ∈ n.repr.toList) : c.isDigit = true := by
  rw [Nat.toList_repr] at h
  exact Nat.isDigit_of_mem_toDigits (by decide) (by decide) h

theorem continuesWord_eq_false_of_isBlank {c : Char} (h : isBlank c = true) :
    continuesWord c = false := by
  rw [Bool.eq_false_iff]
  intro hword
  rcases continuesWord_iff.1 hword with halpha | hnumeric | rfl
  · rw [isAlphabetic_eq_false_of_isBlank h] at halpha
    cases halpha
  · rw [isNumeric_eq_false_of_isBlank h] at hnumeric
    cases hnumeric
  · revert h
    decide

theorem isDigit_eq_false_of_beginsWord {c : Char} (h : beginsWord c = true) :
    c.isDigit = false := by
  rw [Bool.eq_false_iff]
  intro hdigit
  rcases beginsWord_iff.1 h with halpha | rfl
  · rw [isAlphabetic_eq_false_of_isDigit hdigit] at halpha
    cases halpha
  · revert hdigit
    decide

/-- A word, as the scanner sees it. -/
theorem isWord_iff {cs : List Char} :
    IsWord cs ↔ ∃ first rest, cs = first :: rest ∧ beginsWord first = true ∧
      ∀ c ∈ rest, continuesWord c = true := by
  simp only [IsWord, beginsWord_iff, continuesWord_iff]

/-! ## Quotes and symbols -/

/-- The characters that a symbol can begin with. -/
def symbolHeads : List Char := ['<', '>', '!', '=', ',', ';', '*']

theorem symbol?_eq_none {c : Char} (hc : c ∉ symbolHeads) (cs : List Char) :
    symbol? (c :: cs) = none := by
  simp only [symbolHeads, List.mem_cons, List.not_mem_nil, or_false, not_or] at hc
  obtain ⟨h1, h2, h3, h4, h5, h6, h7⟩ := hc
  simp [symbol?, symbols, List.isPrefixOf, Ne.symm h1, Ne.symm h2, Ne.symm h3, Ne.symm h4,
    Ne.symm h5, Ne.symm h6, Ne.symm h7]

/-- The scanner looks for the symbols of the grammar. -/
theorem mem_symbols_iff {spelling : String} {kind : Kind} :
    (spelling, kind) ∈ symbols ↔ IsSymbol spelling kind := by
  constructor
  · intro h
    simp only [symbols, List.mem_cons, List.not_mem_nil, or_false, Prod.mk.injEq] at h
    rcases h with h | h | h | h | h | h | h | h | h | h <;> obtain ⟨rfl, rfl⟩ := h <;> constructor
  · intro h
    cases h <;> decide

theorem isSymbol_of_symbol? {cs : List Char} {spelling : String} {kind : Kind}
    (h : symbol? cs = some (spelling, kind)) : IsSymbol spelling kind :=
  mem_symbols_iff.1 (List.mem_of_find?_eq_some h)

theorem isSymbol_symbol (op : Comparator) : IsSymbol op.symbol (.comparator op) := by
  cases op <;> constructor

theorem head_mem_symbolHeads {spelling : String} {kind : Kind} (h : IsSymbol spelling kind) :
    ∃ c cs, spelling.toList = c :: cs ∧ c ∈ symbolHeads := by
  cases h <;> exact ⟨_, _, rfl, by decide⟩

theorem eq_of_accepts {quotes : QuoteStyle} {c : Char} (h : quotes.accepts c = true) :
    c = '\'' ∨ c = '"' := by
  cases quotes <;> simp_all [QuoteStyle.accepts]

theorem isBlank_eq_false_of_accepts {quotes : QuoteStyle} {quote : Char}
    (h : quotes.accepts quote = true) : isBlank quote = false := by
  rcases eq_of_accepts h with rfl | rfl <;> decide

/-- Characters that stand outside words. -/
def marks : List Char := '\'' :: '"' :: '.' :: symbolHeads

theorem ne_of_continuesWord {c d : Char} (h : continuesWord c = true) (hd : d ∈ marks) : c ≠ d := by
  have hall : (marks.all fun c => !continuesWord c) = true := by decide
  have hmark := List.all_eq_true.1 hall d hd
  rintro rfl
  simp [h] at hmark

theorem accepts_eq_false_of_continuesWord {quotes : QuoteStyle} {c : Char}
    (h : continuesWord c = true) : quotes.accepts c = false := by
  rw [Bool.eq_false_iff]
  intro hquote
  rcases eq_of_accepts hquote with rfl | rfl
  · exact ne_of_continuesWord h (by decide) rfl
  · exact ne_of_continuesWord h (by decide) rfl

theorem notMem_symbolHeads_of_continuesWord {c : Char} (h : continuesWord c = true) :
    c ∉ symbolHeads := by
  intro hmem
  exact ne_of_continuesWord h (by simp [marks, hmem]) rfl

theorem notMem_symbolHeads_of_accepts {quotes : QuoteStyle} {c : Char}
    (h : quotes.accepts c = true) : c ∉ symbolHeads := by
  rcases eq_of_accepts h with rfl | rfl <;> decide

/-! ## Cases -/

/-- A word is found to be a keyword exactly if it differs from the spelling of the keyword at most
in the case of ASCII letters. -/
theorem ofWord?_eq_some_iff_sameIgnoringCase {word : List Char} {k : Keyword} :
    Keyword.ofWord? word = some k ↔ SameIgnoringCase word k.spelling.toList := by
  have hcaps : k.spelling.toList.map Char.toUpper = k.spelling.toList := by
    cases k <;> decide
  rw [Keyword.ofWord?_eq_some_iff, SameIgnoringCase, hcaps, eq_comm]

end SelectLang
