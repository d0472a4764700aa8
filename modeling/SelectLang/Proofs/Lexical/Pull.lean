import SelectLang.Proofs.Lexical.Layout

/-!
# What one pull takes

A pull skips blanks and takes one piece off the text: a lexeme, a stray character, or all that is
left, from a quote that is never closed on.  At the end of the text it takes nothing.  Whether the
stream was asked for a token or for the next item of an iteration, that is all that happens
(`TokenStream.Makes`); what differs is when the iteration ends.
-/

namespace SelectLang

open Text

/-! ## Pieces -/

/-- What a pull answers, the piece that it takes and the text that it leaves; the piece begins at
the offset `start`. -/
inductive Takes (quotes : QuoteStyle) (start : Nat) :
    Except LexicalError Token → List Char → List Char → Prop
  | lexeme {piece rest : List Char} {kind : Kind} {text : String}
      (h : IsLexeme quotes piece kind text) :
      Takes quotes start (.ok ⟨kind, text, ⟨start, start + byteLength piece⟩⟩) piece rest
  | ending : Takes quotes start (.ok (.eof start)) [] []
  | stray {c : Char} {rest : List Char} (hc : isBlank c = false) :
      Takes quotes start (.error (.unexpectedCharacter c start)) [c] rest
  | unclosed {quote : Char} {content : List Char} (hquote : quotes.accepts quote = true)
      (hcontent : quote ∉ content) :
      Takes quotes start (.error (.unterminatedString quote start)) (quote :: content) []

variable {quotes : QuoteStyle}

theorem Takes.span {start : Nat} {token : Token} {piece rest : List Char}
    (h : Takes quotes start (.ok token) piece rest) :
    token.span = ⟨start, start + byteLength piece⟩ := by
  cases h with
  | lexeme hlexeme => rfl
  | ending => rfl

theorem Takes.isLexeme {start : Nat} {token : Token} {piece rest : List Char}
    (h : Takes quotes start (.ok token) piece rest) (hkind : token.kind ≠ .eof) :
    IsLexeme quotes piece token.kind token.text := by
  cases h with
  | lexeme hlexeme => exact hlexeme
  | ending => exact absurd rfl hkind

theorem takes_stray {start : Nat} {c : Char} {cs spelling rest : List Char}
    (h : scan? quotes cs = some ⟨.stray c, spelling, rest⟩)
    (hhead : ∀ d ∈ cs.head?, isBlank d = false) :
    Takes quotes start (.error (.unexpectedCharacter c start)) spelling rest := by
  obtain ⟨rfl, rfl, -⟩ := beginsNothing_of_scan? h
  exact .stray (hhead c rfl)

theorem takes_unclosed {start : Nat} {quote : Char} {cs spelling rest : List Char}
    (h : scan? quotes cs = some ⟨.unclosed quote, spelling, rest⟩) :
    Takes quotes start (.error (.unterminatedString quote start)) spelling rest := by
  obtain ⟨content, -, rfl, rfl, hquote, hcontent⟩ := unclosed_of_scan? h
  exact .unclosed hquote hcontent

/-! ## One pull -/

/-- What was taken off a stream at once: blanks and a piece, the answer, and the stream left. -/
structure Pull where
  /-- The stream was asked for the next item of an iteration, not just for a token. -/
  iterating : Bool
  gap : List Char
  piece : List Char
  answer : Except LexicalError Token
  left : TokenStream

namespace Pull

/-- The answer was the end marker. -/
def isEnd (pull : Pull) : Bool :=
  match pull.answer with
  | .ok token => token.isEof
  | .error _ => false

/-- The answer was the end marker or an error. -/
def isLast (pull : Pull) : Bool :=
  match pull.answer with
  | .ok token => token.isEof
  | .error _ => true

/-- The answer was the end marker, or an error in an iteration. -/
def closes (pull : Pull) : Bool :=
  match pull.answer with
  | .ok token => token.isEof
  | .error _ => pull.iterating

end Pull

/-- All that the pull does to the stream. -/
structure TokenStream.Makes (stream : TokenStream) (pull : Pull) : Prop where
  asked : if pull.iterating then stream.next? = some (pull.answer, pull.left)
    else stream.pull = (pull.answer, pull.left)
  gap : ∀ c ∈ pull.gap, isBlank c = true
  rest : stream.rest = pull.gap ++ (pull.piece ++ pull.left.rest)
  takes : Takes stream.quotes (stream.offset + byteLength pull.gap) pull.answer pull.piece
    pull.left.rest
  offset : pull.left.offset = stream.offset + byteLength pull.gap + byteLength pull.piece
  quotes : pull.left.quotes = stream.quotes
  exhausted : pull.left.exhausted = (stream.exhausted || pull.closes)

namespace TokenStream

theorem exists_makes_of_pull {stream left : TokenStream} {answer : Except LexicalError Token}
    (h : stream.pull = (answer, left)) :
    ∃ gap piece, stream.Makes ⟨false, gap, piece, answer, left⟩ := by
  obtain ⟨quotes, cs, offset, exhausted⟩ := stream
  have hpull := h
  rcases isBlank_or_exists_scan? quotes cs with
    hblank | ⟨gap, text, ⟨piece, spelling, rest⟩, rfl, hgap, htext, hfound⟩
  · rw [pull_of_isBlank hblank] at hpull
    obtain ⟨rfl, rfl⟩ := Prod.mk.inj hpull
    exact ⟨cs, [], h, hblank, (List.append_nil cs).symm, .ending, rfl, rfl, (Bool.or_true _).symm⟩
  · have hrest : gap ++ text = gap ++ (spelling ++ rest) := by
      rw [spelling_append_rest hfound]
    rw [pull_of_scan? hgap htext hfound] at hpull
    obtain ⟨rfl, rfl⟩ := Prod.mk.inj hpull
    cases piece with
    | lexeme kind text =>
      obtain ⟨hlexeme, -⟩ := isLexeme_of_scan? hfound
      have hkind := kind_ne_eof_of_isLexeme hlexeme
      refine ⟨gap, spelling, h, hgap, hrest, .lexeme hlexeme, rfl, rfl, ?_⟩
      simp [Pull.closes, Token.isEof, hkind]
    | stray c =>
      exact ⟨gap, spelling, h, hgap, hrest, takes_stray hfound htext, rfl, rfl,
        (Bool.or_false _).symm⟩
    | unclosed quote =>
      exact ⟨gap, spelling, h, hgap, hrest, takes_unclosed hfound, rfl, rfl,
        (Bool.or_false _).symm⟩

/-! ### Items of an iteration -/

theorem next?_eq_none_iff {stream : TokenStream} :
    stream.next? = none ↔ stream.exhausted = true := by
  rw [next?]
  split
  · rename_i hended
    simp [hended]
  · rename_i hopen
    simp only [hopen]
    split <;> simp

/-- An iteration that has not ended yields the token that is pulled. -/
theorem next?_of_pull_eq_ok {stream left : TokenStream} {token : Token}
    (hopen : stream.exhausted = false) (hpull : stream.pull = (.ok token, left)) :
    stream.next? = some (.ok token, left) := by
  rw [next?, hpull, hopen]
  rfl

/-- An iteration that has not ended yields the error too, and ends with it. -/
theorem next?_of_pull_eq_error {stream left : TokenStream} {e : LexicalError}
    (hopen : stream.exhausted = false) (hpull : stream.pull = (.error e, left)) :
    stream.next? = some (.error e, { left with exhausted := true }) := by
  rw [next?, hpull, hopen]
  rfl

/-- The next item of an iteration is what a pull makes. -/
theorem exists_makes_of_next? {stream left : TokenStream} {item : Except LexicalError Token}
    (h : stream.next? = some (item, left)) :
    ∃ gap piece, stream.Makes ⟨true, gap, piece, item, left⟩ := by
  have hopen : stream.exhausted = false := by
    rw [← Bool.not_eq_true, ← next?_eq_none_iff, h]
    simp
  rcases hpull : stream.pull with ⟨answer, left'⟩
  obtain ⟨gap, piece, hmakes⟩ := exists_makes_of_pull hpull
  cases answer with
  | error e =>
    obtain ⟨rfl, rfl⟩ := Prod.mk.inj
      (Option.some.inj (h.symm.trans (next?_of_pull_eq_error hopen hpull)))
    exact ⟨gap, piece, h, hmakes.gap, hmakes.rest, hmakes.takes, hmakes.offset, hmakes.quotes,
      (Bool.or_true _).symm⟩
  | ok token =>
    obtain ⟨rfl, rfl⟩ := Prod.mk.inj
      (Option.some.inj (h.symm.trans (next?_of_pull_eq_ok hopen hpull)))
    exact ⟨gap, piece, h, hmakes.gap, hmakes.rest, hmakes.takes, hmakes.offset, hmakes.quotes,
      hmakes.exhausted⟩

namespace Makes

variable {stream : TokenStream} {pull : Pull}

/-- No iteration yields an item after it has ended. -/
theorem exhausted_eq_false (h : stream.Makes pull) (hiterating : pull.iterating = true) :
    stream.exhausted = false := by
  have hasked := h.asked
  rw [if_pos hiterating] at hasked
  rw [← Bool.not_eq_true, ← next?_eq_none_iff, hasked]
  simp

/-- A piece is taken unless the text has come to its end. -/
theorem isEnd_iff (h : stream.Makes pull) : pull.isEnd = true ↔ pull.piece = [] := by
  have htakes := h.takes
  rw [Pull.isEnd]
  generalize pull.answer = answer at htakes ⊢
  generalize pull.piece = piece at htakes ⊢
  generalize pull.left.rest = rest at htakes
  cases htakes with
  | lexeme hlexeme =>
    obtain ⟨c, cs, rfl, -⟩ := heads_of_isLexeme hlexeme
    simp [Token.isEof, kind_ne_eof_of_isLexeme hlexeme]
  | ending => simp [Token.isEof, Token.eof]
  | stray hc => simp
  | unclosed hquote hcontent => simp

/-- The end marker stands behind the last character. -/
theorem answer_of_isEnd (h : stream.Makes pull) (hend : pull.isEnd = true) :
    pull.answer = .ok (.eof pull.left.offset) ∧ pull.left.rest = [] := by
  have htakes := h.takes
  have hpiece := h.isEnd_iff.1 hend
  rw [hpiece] at htakes
  have hoffset : pull.left.offset = stream.offset + byteLength pull.gap := by
    rw [h.offset, hpiece, byteLength_nil, Nat.add_zero]
  rw [hoffset]
  generalize pull.answer = answer at htakes ⊢
  generalize pull.left.rest = rest at htakes ⊢
  cases htakes with
  | lexeme hlexeme =>
    obtain ⟨c, cs, hcs, -⟩ := heads_of_isLexeme hlexeme
    cases hcs
  | ending => exact ⟨rfl, rfl⟩

end Makes

end TokenStream

end SelectLang
