import Mathlib.Data.List.TakeWhile
import SelectLang.Proofs.Lexical.Characters

/-!
# Scanning a lexeme

The scanner takes a lexeme off the front of a text exactly if the text begins with it and does not
go on with characters that would make it longer (`scan?_append`, `isLexeme_of_scan?`).  Which
characters these are depends on the kind of the lexeme.  Where there is none to take, the text
begins with a character that begins nothing, or with a quote of which there is no second one
(`BeginsNothing.scan?`, `scan?_unclosed`).  These are all that a scan comes to (`scanned_of_scan?`).
-/

namespace SelectLang

open Text

/-- The text goes on with characters that would belong to the lexeme before it. -/
def RunsOn (kind : Kind) (spelling rest : List Char) : Prop :=
  match kind with
  | .keyword _ => ∃ c ∈ rest.head?, continuesWord c = true
  | .identifier => ∃ c ∈ rest.head?, continuesWord c = true
  | .number =>
      (∃ c ∈ rest.head?, c.isDigit = true) ∨
        ('.' ∉ spelling ∧ ∃ d more, rest = '.' :: d :: more ∧ d.isDigit = true)
  | .comparator .lt => ∃ c ∈ rest.head?, c = '=' ∨ c = '>'
  | .comparator .gt => ∃ c ∈ rest.head?, c = '='
  | _ => False

/-! ## Cutting where a property ends -/

theorem takeWhile_append_of_head {p : Char → Bool} {front rest : List Char}
    (hfront : ∀ c ∈ front, p c = true) (hrest : ∀ c ∈ rest.head?, p c = false) :
    (front ++ rest).takeWhile p = front := by
  rw [List.takeWhile_append_of_pos hfront]
  cases rest with
  | nil => simp
  | cons c cs => simp [hrest c rfl]

theorem dropWhile_append_of_head {p : Char → Bool} {front rest : List Char}
    (hfront : ∀ c ∈ front, p c = true) (hrest : ∀ c ∈ rest.head?, p c = false) :
    (front ++ rest).dropWhile p = rest := by
  rw [List.dropWhile_append_of_pos hfront]
  cases rest with
  | nil => rfl
  | cons c cs => simp [hrest c rfl]

theorem eq_false_of_mem_head?_dropWhile {p : Char → Bool} {cs : List Char} {c : Char}
    (h : c ∈ (cs.dropWhile p).head?) : p c = false := by
  have hnot := List.head?_dropWhile_not p cs
  rw [Option.mem_def] at h
  rwa [h] at hnot

/-! ## Words -/

theorem isWord_takeWhile {c : Char} {cs : List Char} (h : beginsWord c = true) :
    IsWord ((c :: cs).takeWhile continuesWord) := by
  rw [List.takeWhile_cons, if_pos (continuesWord_of_beginsWord h)]
  exact isWord_iff.2 ⟨c, _, rfl, h, fun d hd => List.mem_takeWhile_imp hd⟩

theorem scan?_word {quotes : QuoteStyle} {word rest : List Char} (hword : IsWord word)
    (hrest : ∀ c ∈ rest.head?, continuesWord c = false) :
    scan? quotes (word ++ rest) =
      some ⟨.lexeme (classify word).1 (classify word).2, word, rest⟩ := by
  obtain ⟨first, others, rfl, hfirst, hothers⟩ := isWord_iff.1 hword
  have hcontinues := continuesWord_of_beginsWord hfirst
  have hall : ∀ c ∈ first :: others, continuesWord c = true := by
    intro c hc
    rcases List.mem_cons.1 hc with rfl | hc
    · exact hcontinues
    · exact hothers c hc
  have htake := takeWhile_append_of_head hall hrest
  have hdrop := dropWhile_append_of_head hall hrest
  rw [List.cons_append] at htake hdrop ⊢
  rw [scan?, symbol?_eq_none (notMem_symbolHeads_of_continuesWord hcontinues)]
  simp only [accepts_eq_false_of_continuesWord hcontinues, isDigit_eq_false_of_beginsWord hfirst,
    hfirst, htake, hdrop, Bool.false_eq_true, if_false, if_true]

theorem isLexeme_classify {quotes : QuoteStyle} {word : List Char} (h : IsWord word) :
    IsLexeme quotes word (classify word).1 (classify word).2 := by
  rw [classify]
  cases hk : Keyword.ofWord? word with
  | some k => exact .keyword k h (ofWord?_eq_some_iff_sameIgnoringCase.1 hk)
  | none =>
    refine .name h fun k hsame => ?_
    rw [ofWord?_eq_some_iff_sameIgnoringCase.2 hsame] at hk
    cases hk

theorem classify_of_keyword {word : List Char} {k : Keyword}
    (h : SameIgnoringCase word k.spelling.toList) : classify word = (.keyword k, k.spelling) := by
  rw [classify, ofWord?_eq_some_iff_sameIgnoringCase.2 h]

theorem classify_of_name {word : List Char}
    (h : ∀ k : Keyword, ¬ SameIgnoringCase word k.spelling.toList) :
    classify word = (.identifier, String.ofList word) := by
  rw [classify]
  cases hk : Keyword.ofWord? word with
  | some k => exact absurd (ofWord?_eq_some_iff_sameIgnoringCase.1 hk) (h k)
  | none => rfl

theorem not_runsOn_classify {word rest : List Char}
    (h : ∀ c ∈ rest.head?, continuesWord c = false) : ¬ RunsOn (classify word).1 word rest := by
  have hstop : ¬ ∃ c ∈ rest.head?, continuesWord c = true := by
    rintro ⟨c, hc, hcontinues⟩
    rw [h c hc] at hcontinues
    cases hcontinues
  rw [classify]
  cases Keyword.ofWord? word <;> exact hstop

/-! ## Numbers -/

theorem splitNumber_of_isNumber {digits rest : List Char} (h : IsNumber digits)
    (hrest : ¬ RunsOn .number digits rest) : splitNumber (digits ++ rest) = (digits, rest) := by
  simp only [RunsOn, not_or, not_exists, not_and, Bool.not_eq_true] at hrest
  obtain ⟨hhead, hpoint⟩ := hrest
  obtain ⟨whole, ⟨-, hwhole⟩, rfl | ⟨fraction, ⟨hne, hfraction⟩, rfl⟩⟩ := h
  · have hnone : '.' ∉ digits := by
      intro hmem
      have hdigit := hwhole _ hmem
      revert hdigit
      decide
    rw [splitNumber, takeWhile_append_of_head hwhole hhead, dropWhile_append_of_head hwhole hhead]
    split
    · rename_i tail
      have htail : tail.takeWhile Char.isDigit = [] := by
        cases tail with
        | nil => rfl
        | cons d more => rw [List.takeWhile_cons, hpoint hnone d more rfl]; rfl
      rw [htail]
      rfl
    · rfl
  · have hdot : ∀ c ∈ ('.' :: (fraction ++ rest)).head?, c.isDigit = false := by
      intro c hc
      obtain rfl := Option.some.inj hc
      decide
    rw [List.append_assoc, List.cons_append, splitNumber,
      takeWhile_append_of_head hwhole hdot, dropWhile_append_of_head hwhole hdot]
    simp only [takeWhile_append_of_head hfraction hhead,
      dropWhile_append_of_head hfraction hhead]
    rw [if_neg (by simpa using hne)]

theorem exists_head_of_isNumber {digits : List Char} (h : IsNumber digits) :
    ∃ c cs, digits = c :: cs ∧ c.isDigit = true := by
  obtain ⟨whole, ⟨hne, hwhole⟩, hdigits⟩ := h
  obtain ⟨c, cs, rfl⟩ := List.exists_cons_of_ne_nil hne
  have hc := hwhole c List.mem_cons_self
  rcases hdigits with rfl | ⟨fraction, -, rfl⟩
  · exact ⟨c, cs, rfl, hc⟩
  · exact ⟨c, cs ++ '.' :: fraction, rfl, hc⟩

/-- The digits at the front, and with a fraction at hand also the fraction, up to where no more
digits follow. -/
theorem isNumber_splitNumber {c : Char} {cs : List Char} (h : c.isDigit = true) :
    IsNumber (splitNumber (c :: cs)).1 ∧
      ¬ RunsOn .number (splitNumber (c :: cs)).1 (splitNumber (c :: cs)).2 := by
  have hwhole : IsDigits ((c :: cs).takeWhile Char.isDigit) := by
    refine ⟨by simp [h], fun d hd => List.mem_takeWhile_imp hd⟩
  have hend : ∀ d ∈ ((c :: cs).dropWhile Char.isDigit).head?, d.isDigit = false :=
    fun d hd => eq_false_of_mem_head?_dropWhile hd
  simp only [RunsOn, not_or, not_exists, not_and, Bool.not_eq_true]
  rw [splitNumber]
  split
  · rename_i tail htail
    split
    · rename_i hempty
      rw [htail] at hend ⊢
      refine ⟨⟨_, hwhole, Or.inl rfl⟩, hend, fun _ d more hmore => ?_⟩
      obtain rfl := (List.cons.inj hmore).2
      rw [List.takeWhile_cons] at hempty
      cases hd : d.isDigit with
      | false => rfl
      | true => simp [hd] at hempty
    · rename_i hne
      refine ⟨⟨_, hwhole, Or.inr ⟨_, ⟨by simpa using hne, ?_⟩, rfl⟩⟩, ?_, ?_⟩
      · exact fun d hd => List.mem_takeWhile_imp hd
      · exact fun d hd => eq_false_of_mem_head?_dropWhile hd
      · intro hpoint
        simp at hpoint
  · rename_i hother
    exact ⟨⟨_, hwhole, Or.inl rfl⟩, hend, fun _ d more hmore => absurd hmore (hother _)⟩

/-! ## Strings and symbols -/

theorem scanString_append_quote {quote : Char} {content rest : List Char} (h : quote ∉ content) :
    scanString quote (content ++ (quote :: rest)) =
      ⟨.lexeme .string (String.ofList content), quote :: (content ++ [quote]), rest⟩ := by
  have hcontent : ∀ c ∈ content, (c != quote) = true := by
    intro c hc
    rw [bne_iff_ne]
    rintro rfl
    exact h hc
  have hquote : ∀ c ∈ (quote :: rest).head?, (c != quote) = false := by
    intro c hc
    obtain rfl := Option.some.inj hc
    simp
  rw [scanString, takeWhile_append_of_head hcontent hquote,
    dropWhile_append_of_head hcontent hquote]
  rfl

/-- The piece that a string scan comes to. -/
theorem scanString_cases (quote : Char) (cs : List Char) :
    (∃ content rest, quote ∉ content ∧ scanString quote cs =
        ⟨.lexeme .string (String.ofList content), quote :: (content ++ [quote]), rest⟩) ∨
      ∃ content, quote ∉ content ∧
        scanString quote cs = ⟨.unclosed quote, quote :: content, []⟩ := by
  have hcontent : quote ∉ cs.takeWhile (· != quote) := by
    intro hmem
    have hne := List.mem_takeWhile_imp hmem
    simp at hne
  rw [scanString]
  split
  · exact Or.inr ⟨_, hcontent, rfl⟩
  · rename_i close rest hclose
    have hquote : close = quote := by
      have hmem : close ∈ (cs.dropWhile (· != quote)).head? := by
        rw [hclose]
        rfl
      simpa using eq_false_of_mem_head?_dropWhile hmem
    subst hquote
    exact Or.inl ⟨_, rest, hcontent, rfl⟩

theorem symbol?_append {spelling : String} {kind : Kind} {rest : List Char}
    (h : IsSymbol spelling kind) (hrest : ¬ RunsOn kind spelling.toList rest) :
    symbol? (spelling.toList ++ rest) = some (spelling, kind) := by
  cases h
  case lt =>
    cases rest with
    | nil => rfl
    | cons c cs =>
      simp only [RunsOn, List.head?_cons, Option.mem_def, Option.some.injEq, exists_eq_left',
        not_or] at hrest
      simp [symbol?, symbols, List.isPrefixOf, Ne.symm hrest.1, Ne.symm hrest.2]
  case gt =>
    cases rest with
    | nil => rfl
    | cons c cs =>
      simp only [RunsOn, List.head?_cons, Option.mem_def, Option.some.injEq,
        exists_eq_left'] at hrest
      simp [symbol?, symbols, List.isPrefixOf, Ne.symm hrest]
  all_goals rfl

/-- The longest symbol is taken, so what follows it does not make it longer. -/
theorem not_runsOn_of_symbol? {spelling : String} {kind : Kind} {rest : List Char}
    (h : symbol? (spelling.toList ++ rest) = some (spelling, kind)) :
    ¬ RunsOn kind spelling.toList rest := by
  cases isSymbol_of_symbol? h
  case lt =>
    rintro ⟨c, hc, hlonger⟩
    obtain ⟨more, rfl⟩ := List.head?_eq_some_iff.1 hc
    rcases hlonger with rfl | rfl
    · have hlong : symbol? ('<' :: '=' :: more) = some ("<=", .comparator .le) := rfl
      simpa using hlong.symm.trans h
    · have hlong : symbol? ('<' :: '>' :: more) = some ("<>", .comparator .ne) := rfl
      simpa using hlong.symm.trans h
  case gt =>
    rintro ⟨c, hc, rfl⟩
    obtain ⟨more, rfl⟩ := List.head?_eq_some_iff.1 hc
    have hlong : symbol? ('>' :: '=' :: more) = some (">=", .comparator .ge) := rfl
    simpa using hlong.symm.trans h
  all_goals exact id

/-! ## Scanning -/

/-- A lexeme at the front of a text is taken off whole. -/
theorem scan?_append {quotes : QuoteStyle} {spelling rest : List Char} {kind : Kind}
    {text : String} (h : IsLexeme quotes spelling kind text)
    (hrest : ¬ RunsOn kind spelling rest) :
    scan? quotes (spelling ++ rest) = some ⟨.lexeme kind text, spelling, rest⟩ := by
  cases h with
  | keyword k hword hk =>
    have hstop : ∀ c ∈ rest.head?, continuesWord c = false := by
      simpa [RunsOn] using hrest
    rw [scan?_word hword hstop, classify_of_keyword hk]
  | name hword hname =>
    have hstop : ∀ c ∈ rest.head?, continuesWord c = false := by
      simpa [RunsOn] using hrest
    rw [scan?_word hword hstop, classify_of_name hname]
  | number hdigits =>
    have hsplit := splitNumber_of_isNumber hdigits hrest
    obtain ⟨c, cs, rfl, hc⟩ := exists_head_of_isNumber hdigits
    have hword := continuesWord_of_isDigit hc
    rw [List.cons_append] at hsplit ⊢
    rw [scan?, symbol?_eq_none (notMem_symbolHeads_of_continuesWord hword)]
    simp only [accepts_eq_false_of_continuesWord hword, hc, hsplit, Bool.false_eq_true, if_false,
      if_true]
  | @string quote content hquote hcontent =>
    rw [List.cons_append, List.append_assoc, List.singleton_append, scan?,
      symbol?_eq_none (notMem_symbolHeads_of_accepts hquote)]
    simp only [hquote, if_true, scanString_append_quote hcontent]
  | @symbol spelling _ hsymbol =>
    obtain ⟨c, cs, hcs, -⟩ := head_mem_symbolHeads hsymbol
    have hs := symbol?_append hsymbol hrest
    have hdrop : (text.toList ++ rest).drop text.toList.length = rest := List.drop_left
    rw [hcs, List.cons_append] at hs hdrop ⊢
    rw [scan?, hs]
    simp only [hcs, hdrop]

/-! ## Other pieces -/

theorem symbol?_eq_none_iff {c : Char} {cs : List Char} :
    symbol? (c :: cs) = none ↔
      c ∉ ['<', '>', '=', ',', ';', '*'] ∧ (c = '!' → cs.head? ≠ some '=') := by
  by_cases hc : c ∈ symbolHeads
  · simp only [symbolHeads, List.mem_cons, List.not_mem_nil, or_false] at hc
    rcases hc with rfl | rfl | rfl | rfl | rfl | rfl | rfl <;> rcases cs with _ | ⟨d, cs⟩
    case pos.inr.inr.inl.cons => simp [symbol?, symbols, List.isPrefixOf, @eq_comm _ d]
    all_goals simp [symbol?, symbols, List.isPrefixOf]
  · rw [symbol?_eq_none hc]
    simp only [symbolHeads, List.mem_cons, List.not_mem_nil, or_false, not_or] at hc
    simp [hc]

/-- The character begins no lexeme before this text. -/
structure BeginsNothing (quotes : QuoteStyle) (c : Char) (rest : List Char) : Prop where
  notMem : c ∉ ['<', '>', '=', ',', ';', '*']
  head?_ne : c = '!' → rest.head? ≠ some '='
  accepts : quotes.accepts c = false
  isDigit : c.isDigit = false
  beginsWord : beginsWord c = false

theorem BeginsNothing.scan? {quotes : QuoteStyle} {c : Char} {rest : List Char}
    (h : BeginsNothing quotes c rest) :
    scan? quotes (c :: rest) = some ⟨.stray c, [c], rest⟩ := by
  simp [SelectLang.scan?, symbol?_eq_none_iff.2 ⟨h.notMem, h.head?_ne⟩, h.accepts, h.isDigit,
    h.beginsWord]

/-- A quote that is not accepted opens no string, and begins no other lexeme either. -/
theorem scan?_quote {quotes : QuoteStyle} {c : Char} {rest : List Char} (hc : c = '\'' ∨ c = '"')
    (hquotes : quotes.accepts c = false) :
    scan? quotes (c :: rest) = some ⟨.stray c, [c], rest⟩ := by
  apply BeginsNothing.scan?
  rcases hc with rfl | rfl
  · exact ⟨by decide, by simp, hquotes, by decide, by decide⟩
  · exact ⟨by decide, by simp, hquotes, by decide, by decide⟩

/-- A quote of which there is no second one opens a string that is never closed. -/
theorem scan?_unclosed {quotes : QuoteStyle} {quote : Char} {content : List Char}
    (hquote : quotes.accepts quote = true) (hcontent : quote ∉ content) :
    scan? quotes (quote :: content) = some ⟨.unclosed quote, quote :: content, []⟩ := by
  have hother : ∀ c ∈ content, (c != quote) = true := by
    intro c hc
    rw [bne_iff_ne]
    rintro rfl
    exact hcontent hc
  have htake : content.takeWhile (· != quote) = content := List.takeWhile_eq_self_iff.2 hother
  have hdrop : content.dropWhile (· != quote) = [] := List.dropWhile_eq_nil_iff.2 hother
  rw [scan?, symbol?_eq_none (notMem_symbolHeads_of_accepts hquote)]
  simp only [hquote, if_true, scanString, htake, hdrop]

/-! ## What a scan comes to -/

/-- The scan took off a lexeme that the text does not go on with, or came upon a character that
begins nothing, or upon a quote of which there is no second one. -/
inductive Scanned (quotes : QuoteStyle) : Scan → Prop
  | lexeme {spelling rest : List Char} {kind : Kind} {text : String}
      (hlexeme : IsLexeme quotes spelling kind text) (hstop : ¬ RunsOn kind spelling rest) :
      Scanned quotes ⟨.lexeme kind text, spelling, rest⟩
  | stray {c : Char} {rest : List Char} (hbegins : BeginsNothing quotes c rest) :
      Scanned quotes ⟨.stray c, [c], rest⟩
  | unclosed {quote : Char} {content : List Char} (hquote : quotes.accepts quote = true)
      (hcontent : quote ∉ content) :
      Scanned quotes ⟨.unclosed quote, quote :: content, []⟩

theorem scanned_of_scan? {quotes : QuoteStyle} {cs : List Char} {found : Scan}
    (h : scan? quotes cs = some found) : Scanned quotes found := by
  cases cs with
  | nil => cases h
  | cons c cs =>
    obtain rfl := Option.some.inj h
    split
    · rename_i spelling kind hs
      rw [← append_drop_of_symbol? hs] at hs
      exact .lexeme (.symbol (isSymbol_of_symbol? hs)) (not_runsOn_of_symbol? hs)
    · rename_i hsymbol
      split
      · rename_i hquote
        rcases scanString_cases c cs with
          ⟨content, rest, hcontent, hstring⟩ | ⟨content, hcontent, hstring⟩
        · rw [hstring]
          exact .lexeme (.string hquote hcontent) id
        · rw [hstring]
          exact .unclosed hquote hcontent
      · rename_i hquote
        split
        · rename_i hdigit
          obtain ⟨hnumber, hstop⟩ := @isNumber_splitNumber c cs hdigit
          exact .lexeme (.number hnumber) hstop
        · rename_i hdigit
          split
          · rename_i hbegins
            exact .lexeme (isLexeme_classify (isWord_takeWhile hbegins))
              (not_runsOn_classify fun d hd => eq_false_of_mem_head?_dropWhile hd)
          · rename_i hbegins
            obtain ⟨hmem, hne⟩ := symbol?_eq_none_iff.1 hsymbol
            exact .stray ⟨hmem, hne, Bool.eq_false_iff.2 hquote, Bool.eq_false_iff.2 hdigit,
              Bool.eq_false_iff.2 hbegins⟩

/-- What is taken off a text is a lexeme, and the text does not go on with more of it. -/
theorem isLexeme_of_scan? {quotes : QuoteStyle} {cs spelling rest : List Char} {kind : Kind}
    {text : String} (h : scan? quotes cs = some ⟨.lexeme kind text, spelling, rest⟩) :
    IsLexeme quotes spelling kind text ∧ ¬ RunsOn kind spelling rest := by
  cases scanned_of_scan? h with
  | lexeme hlexeme hstop => exact ⟨hlexeme, hstop⟩

theorem beginsNothing_of_scan? {quotes : QuoteStyle} {cs spelling rest : List Char} {c : Char}
    (h : scan? quotes cs = some ⟨.stray c, spelling, rest⟩) :
    cs = c :: rest ∧ spelling = [c] ∧ BeginsNothing quotes c rest := by
  have hcut := spelling_append_rest h
  cases scanned_of_scan? h with
  | stray hbegins => exact ⟨hcut.symm, rfl, hbegins⟩

theorem unclosed_of_scan? {quotes : QuoteStyle} {cs spelling rest : List Char} {quote : Char}
    (h : scan? quotes cs = some ⟨.unclosed quote, spelling, rest⟩) :
    ∃ content, cs = quote :: content ∧ spelling = quote :: content ∧ rest = [] ∧
      quotes.accepts quote = true ∧ quote ∉ content := by
  have hcut := spelling_append_rest h
  cases scanned_of_scan? h with
  | unclosed hquote hcontent =>
    rw [List.append_nil] at hcut
    exact ⟨_, hcut.symm, rfl, rfl, hquote, hcontent⟩

end SelectLang
