import SelectLang.Text.Blank
import SelectLang.Token.Basic
import SelectLang.Token.Lexeme
import SelectLang.Token.LexicalError

/-!
# Token streams

A token stream is a text that is being cut into tokens from the front.  It can be asked for one
token, for the next item of an iteration, or for all that is left; each answer comes with the stream
that remains.  An error leaves a usable stream, with the offending text consumed.

Main statement: `rest_length_lt_of_pull`, every token but the end marker makes the text shorter, so
draining a stream ends.
-/

namespace SelectLang

/-- The text that is still to be cut, the offset at which it begins, and whether iteration has
ended. -/
structure TokenStream where
  quotes : QuoteStyle
  rest : List Char
  offset : Nat := 0
  exhausted : Bool := false
  deriving DecidableEq, Repr

namespace TokenStream

/-- The stream of a whole text. -/
def ofString (quotes : QuoteStyle) (source : String) : TokenStream :=
  { quotes := quotes, rest := source.toList }

/-- Skips blanks and takes one piece: a token, or the end marker once there is no text left. -/
def pull (stream : TokenStream) : Except LexicalError Token × TokenStream :=
  let start := stream.offset + Text.byteLength (stream.rest.takeWhile Text.isBlank)
  match scan? stream.quotes (Text.trimFront stream.rest) with
  | none => (.ok (.eof start), { stream with rest := [], offset := start, exhausted := true })
  | some found =>
      let stop := start + Text.byteLength found.spelling
      let left := { stream with rest := found.rest, offset := stop }
      match found.piece with
      | .lexeme kind text => (.ok ⟨kind, text, ⟨start, stop⟩⟩, left)
      | .stray c => (.error (.unexpectedCharacter c start), left)
      | .unclosed quote => (.error (.unterminatedString quote start), left)

theorem length_trimFront_le (cs : List Char) : (Text.trimFront cs).length ≤ cs.length :=
  (List.dropWhile_suffix _).length_le

/-- A pull either comes upon the end of the text or makes the text shorter. -/
theorem eof_or_lt_of_pull {stream left : TokenStream} {answer : Except LexicalError Token}
    (h : stream.pull = (answer, left)) :
    (answer = .ok (.eof left.offset) ∧ left.exhausted = true) ∨
      left.rest.length < stream.rest.length := by
  have htrim := length_trimFront_le stream.rest
  rw [pull] at h
  split at h
  · obtain ⟨rfl, rfl⟩ := Prod.mk.inj h
    exact Or.inl ⟨rfl, rfl⟩
  · rename_i found hfound
    have hlt := rest_length_lt hfound
    split at h <;> obtain ⟨-, rfl⟩ := Prod.mk.inj h <;>
      exact Or.inr (Nat.lt_of_lt_of_le hlt htrim)

/-- Every token but the end marker makes the text shorter. -/
theorem rest_length_lt_of_pull {stream left : TokenStream} {token : Token}
    (h : stream.pull = (.ok token, left)) (htoken : token.isEof = false) :
    left.rest.length < stream.rest.length := by
  rcases eof_or_lt_of_pull h with ⟨heof, -⟩ | hlt
  · obtain rfl := Except.ok.inj heof
    cases htoken
  · exact hlt

/-- All tokens that are left, with the end marker last, or the first error among them. -/
def drain (stream : TokenStream) : Except LexicalError (List Token) × TokenStream :=
  match _hpull : stream.pull with
  | (.error e, left) => (.error e, left)
  | (.ok token, left) =>
      if _heof : token.isEof then (.ok [token], left)
      else
        match left.drain with
        | (.ok tokens, left) => (.ok (token :: tokens), left)
        | (.error e, left) => (.error e, left)
termination_by stream.rest.length
decreasing_by exact rest_length_lt_of_pull _hpull (Bool.eq_false_iff.2 _heof)

/-! ## Iteration -/

/-- The next item of an iteration.  Iteration ends after the end marker, and after the first error
that it yields itself. -/
def next? (stream : TokenStream) : Option (Except LexicalError Token × TokenStream) :=
  if stream.exhausted then none
  else
    match stream.pull with
    | (.error e, left) => some (.error e, { left with exhausted := true })
    | (.ok token, left) => some (.ok token, left)

/-- How much an iteration still has to go: nothing once it has ended. -/
def remaining (stream : TokenStream) : Nat :=
  if stream.exhausted then 0 else stream.rest.length + 1

theorem remaining_lt_of_next? {stream left : TokenStream} {item : Except LexicalError Token}
    (h : stream.next? = some (item, left)) : left.remaining < stream.remaining := by
  rw [next?] at h
  split at h
  · cases h
  · rename_i hopen
    rw [remaining, remaining, if_neg hopen]
    split at h <;> obtain ⟨-, rfl⟩ := Prod.mk.inj (Option.some.inj h)
    · exact Nat.succ_pos _
    · rename_i token left' hpull
      rcases eof_or_lt_of_pull hpull with ⟨-, hleft⟩ | hlt
      · rw [if_pos hleft]
        exact Nat.succ_pos _
      · split
        · exact Nat.succ_pos _
        · omega

/-- Everything that an iteration yields, to its end. -/
def items (stream : TokenStream) : List (Except LexicalError Token) × TokenStream :=
  match _hnext : stream.next? with
  | none => ([], stream)
  | some (item, left) =>
      let (others, final) := left.items
      (item :: others, final)
termination_by stream.remaining
decreasing_by exact remaining_lt_of_next? _hnext

end TokenStream

/-- Cuts a text into tokens, with the end marker last. -/
def tokenize (dialect : Dialect) (source : String) : Except LexicalError (List Token) :=
  (TokenStream.ofString dialect.quotes source).drain.1

end SelectLang
