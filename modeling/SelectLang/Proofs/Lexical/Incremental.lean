import SelectLang.Proofs.Lexical.Session

/-!
# One token at a time, or all at once

A text that is cut into tokens gives the same tokens whether they are asked for one by one or
together, and wherever one goes over from the one to the other.  A text that is not cut gives the
tokens of its part before the error, and then the error, after which an iteration is over
(`incremental_eq_batch`).

The tokens before an error do not depend on what stands behind them, because less text after a
lexeme never makes it longer (`RunsOn.append`).
-/

namespace SelectLang

open Text

variable {quotes : QuoteStyle}

/-! ## Parts of layouts -/

/-- A lexeme that the text makes longer is made longer by any text that begins with it. -/
theorem RunsOn.append {kind : Kind} {spelling rest : List Char} (h : RunsOn kind spelling rest)
    (more : List Char) : RunsOn kind spelling (rest ++ more) := by
  have hhead : ∀ {P : Char → Prop}, (∃ c ∈ rest.head?, P c) → ∃ c ∈ (rest ++ more).head?, P c := by
    rintro P ⟨c, hc, hP⟩
    obtain ⟨cs, rfl⟩ := List.head?_eq_some_iff.1 hc
    exact ⟨c, rfl, hP⟩
  unfold RunsOn at h ⊢
  split at h
  · exact hhead h
  · exact hhead h
  · rcases h with h | ⟨hpoint, d, cs, rfl, hd⟩
    · exact Or.inl (hhead h)
    · exact Or.inr ⟨hpoint, d, cs ++ more, rfl, hd⟩
  · exact hhead h
  · exact hhead h
  · exact h

theorem itemsText_append (items others : List (Item quotes)) :
    itemsText (items ++ others) = itemsText items ++ itemsText others := List.flatMap_append

theorem length_place (offset : Nat) (items : List (Item quotes)) :
    (place offset items).length = items.length := by
  induction items generalizing offset with
  | nil => rfl
  | cons item items ih => rw [place, List.length_cons, List.length_cons, ih]

theorem place_append (offset : Nat) (items others : List (Item quotes)) :
    place offset (items ++ others) =
      place offset items ++ place (offset + byteLength (itemsText items)) others := by
  induction items generalizing offset with
  | nil => rfl
  | cons item items ih =>
    simp only [List.cons_append, place, ih, itemsText_cons, byteLength_append, Nat.add_assoc]

theorem apart_append_iff {items others : List (Item quotes)} {rest : List Char} :
    Apart (items ++ others) rest ↔ Apart items (itemsText others ++ rest) ∧ Apart others rest := by
  induction items with
  | nil => simp [Apart]
  | cons item items ih =>
    rw [List.cons_append, Apart, Apart, ih, itemsText_append, List.append_assoc, and_assoc]

/-- Lexemes that stay apart before a text stay apart before any beginning of it. -/
theorem Apart.of_append {items : List (Item quotes)} {rest more : List Char}
    (h : Apart items (rest ++ more)) : Apart items rest := by
  induction items with
  | nil => trivial
  | cons item items ih =>
    obtain ⟨hitem, hitems⟩ := h
    refine ⟨fun hlonger => hitem ?_, ih hitems⟩
    rw [← List.append_assoc]
    exact hlonger.append more

/-! ## Answers in a row -/

/-- What a call for one token answers. -/
def Call.reply : Call → Except LexicalError Token → Answer
  | .next, item => .yielded (some item)
  | _, item => .pulled item

namespace TokenStream

/-- The answers to calls that are made one after the other. -/
def answers (stream : TokenStream) (calls : List Call) : List Answer :=
  (stream.run calls).map Prod.fst

theorem answers_cons (stream : TokenStream) (call : Call) (calls : List Call) :
    stream.answers (call :: calls) =
      (stream.perform call).1 :: (stream.perform call).2.answers calls := rfl

/-- A call for one token, be it the next item of an iteration, is answered by the token pulled. -/
theorem perform_of_pull_eq_ok {stream left : TokenStream} {token : Token}
    (hopen : stream.exhausted = false) (hpull : stream.pull = (.ok token, left)) {call : Call}
    (hcall : call = .pull ∨ call = .next) :
    stream.perform call = (call.reply (.ok token), left) := by
  rcases hcall with rfl | rfl
  · rw [perform, hpull]
    rfl
  · rw [perform, next?_of_pull_eq_ok hopen hpull]
    rfl

/-- Calls for one token each, as many as there are lexemes, are answered by their tokens. -/
theorem answers_items {call : Call} (hcall : call = .pull ∨ call = .next)
    {items : List (Item quotes)} {rest : List Char} (h : Apart items rest) (offset : Nat)
    (calls : List Call) :
    (mk quotes (itemsText items ++ rest) offset false).answers
        (List.replicate items.length call ++ calls) =
      (place offset items).map (fun token => call.reply (.ok token)) ++
        (mk quotes rest (offset + byteLength (itemsText items)) false).answers calls := by
  induction items generalizing offset with
  | nil => rfl
  | cons item items ih =>
    obtain ⟨hitem, hitems⟩ := h
    rw [itemsText_cons, List.append_assoc, List.append_assoc, List.length_cons,
      List.replicate_succ, List.cons_append, answers_cons,
      perform_of_pull_eq_ok rfl (pull_item hitem) hcall, ih hitems]
    simp only [place, List.map_cons, List.cons_append, byteLength_append, Nat.add_assoc]

theorem answers_of_exhausted {stream : TokenStream} (h : stream.exhausted = true) (n : Nat) :
    stream.answers (List.replicate n .next) = List.replicate n (.yielded none) := by
  induction n with
  | zero => rfl
  | succ n ih =>
    have hnext : stream.perform .next = (.yielded none, stream) := by
      rw [perform, next?_eq_none_iff.2 h]
    rw [List.replicate_succ, List.replicate_succ, answers_cons, hnext, ih]

/-- After the item that ends an iteration there are none. -/
theorem answers_of_next?_last {stream left : TokenStream} {item : Except LexicalError Token}
    (hnext : stream.next? = some (item, left)) (hleft : left.exhausted = true) (n : Nat) :
    stream.answers (List.replicate (n + 1) .next) =
      .yielded (some item) :: List.replicate n (.yielded none) := by
  have hperform : stream.perform .next = (.yielded (some item), left) := by
    rw [perform, hnext]
  rw [List.replicate_succ, answers_cons, hperform, answers_of_exhausted hleft]

/-- At the end of a text the end marker is yielded, and then nothing. -/
theorem answers_next_of_isBlank {cs : List Char} (h : ∀ c ∈ cs, isBlank c = true) (offset n : Nat) :
    (mk quotes cs offset false).answers (List.replicate (n + 1) .next) =
      .yielded (some (.ok (.eof (offset + byteLength cs)))) :: List.replicate n (.yielded none) :=
  answers_of_next?_last (next?_of_pull_eq_ok rfl (pull_of_isBlank h)) rfl n

/-- Where a pull finds no token, the error is yielded, and then nothing. -/
theorem answers_next_of_error {stream left : TokenStream} {e : LexicalError}
    (hopen : stream.exhausted = false) (hpull : stream.pull = (.error e, left)) (n : Nat) :
    stream.answers (List.replicate (n + 1) .next) =
      .yielded (some (.error e)) :: List.replicate n (.yielded none) :=
  answers_of_next?_last (next?_of_pull_eq_error hopen hpull) rfl n

/-- After calls for one token each, what is left is drained. -/
theorem answers_items_drain {call : Call} (hcall : call = .pull ∨ call = .next)
    {before after : List (Item quotes)} {trailing : List Char}
    (hapart : Apart (before ++ after) trailing) (htrailing : ∀ c ∈ trailing, isBlank c = true) :
    (mk quotes (itemsText (before ++ after) ++ trailing) 0 false).answers
        (List.replicate before.length call ++ [.drain]) =
      (place 0 before).map (fun token => call.reply (.ok token)) ++
        [.drained (.ok (place (0 + byteLength (itemsText before)) after ++
          [.eof (0 + byteLength (itemsText before) + byteLength (itemsText after) +
            byteLength trailing)]))] := by
  obtain ⟨hbefore, hafter⟩ := apart_append_iff.1 hapart
  have hdrain : ∀ offset, (mk quotes (itemsText after ++ trailing) offset false).drain.1 =
      .ok (place offset after ++
        [.eof (offset + byteLength (itemsText after) + byteLength trailing)]) := by
    intro offset
    change cut quotes (itemsText after ++ trailing) offset = _
    rw [cut_items hafter, cut_of_isBlank htrailing]
    rfl
  rw [itemsText_append, List.append_assoc, answers_items hcall hbefore, ← hdrain]
  rfl

end TokenStream

/-! ## Incremental and batch -/

theorem Takes.position_error {start : Nat} {e : LexicalError} {piece rest : List Char}
    (h : Takes quotes start (.error e) piece rest) : e.position = start := by
  cases h with
  | stray _ => rfl
  | unclosed _ _ => rfl

/-- The tokens are what an iteration of the source yields, and then nothing; and at any place short
of the last token one can go over from tokens one by one to all that are left. -/
structure InPieces (quotes : QuoteStyle) (source : String) (ts : List Token) : Prop where
  iteration : ∀ n, (TokenStream.ofString quotes source).answers
      (List.replicate (ts.length + n) .next) =
    ts.map (fun token => .yielded (some (.ok token))) ++ List.replicate n (.yielded none)
  pulls : ∀ k < ts.length, (TokenStream.ofString quotes source).answers
      (List.replicate k .pull ++ [.drain]) =
    (ts.take k).map (fun token => .pulled (.ok token)) ++ [.drained (.ok (ts.drop k))]
  items : ∀ k < ts.length, (TokenStream.ofString quotes source).answers
      (List.replicate k .next ++ [.drain]) =
    (ts.take k).map (fun token => .yielded (some (.ok token))) ++ [.drained (.ok (ts.drop k))]

/-- The source is cut up to the error, and its part before the error is cut into the tokens that an
iteration of the source yields first; what it yields then is the error, and after that nothing. -/
structure UpToError (dialect : Dialect) (source : String) (e : LexicalError) (ts : List Token) :
    Prop where
  front : ∃ front rest, splitBytes e.position source.toList = some (front, rest) ∧
    tokenize dialect (String.ofList front) = .ok (ts ++ [.eof e.position])
  iteration : ∀ n, (TokenStream.ofString dialect.quotes source).answers
      (List.replicate (ts.length + (n + 1)) .next) =
    ts.map (fun token => .yielded (some (.ok token))) ++
      .yielded (some (.error e)) :: List.replicate n (.yielded none)

theorem inPieces_of_tokenize {dialect : Dialect} {source : String} {ts : List Token}
    (h : tokenize dialect source = .ok ts) : InPieces dialect.quotes source ts := by
  obtain ⟨items, trailing, hsource, hapart, hts⟩ := exists_items_of_cut h
  have hstart : TokenStream.ofString dialect.quotes source =
      ⟨dialect.quotes, itemsText items ++ trailing.val, 0, false⟩ := by rw [← hsource]; rfl
  have hlength : ts.length = items.length + 1 := by
    rw [hts, List.length_append, length_place, List.length_singleton]
  have hcalls : ∀ call : Call, call = .pull ∨ call = .next → ∀ k < ts.length,
      (TokenStream.ofString dialect.quotes source).answers (List.replicate k call ++ [.drain]) =
        (ts.take k).map (fun token => call.reply (.ok token)) ++
          [.drained (.ok (ts.drop k))] := by
    intro call hcall k hk
    obtain ⟨before, after, rfl, rfl⟩ : ∃ before after, items = before ++ after ∧
        before.length = k :=
      ⟨items.take k, items.drop k, (List.take_append_drop k items).symm,
        List.length_take_of_le (by omega)⟩
    rw [hstart, TokenStream.answers_items_drain hcall hapart trailing.property, hts, hsource,
      place_append, List.append_assoc, ← length_place 0 before, List.take_left, List.drop_left]
    simp only [itemsText_append, byteLength_append, Nat.add_assoc]
  refine ⟨fun n => ?_, hcalls .pull (Or.inl rfl), hcalls .next (Or.inr rfl)⟩
  rw [hlength, hts, hstart, Nat.add_assoc, Nat.add_comm 1 n, List.replicate_add,
    TokenStream.answers_items (Or.inr rfl) hapart,
    TokenStream.answers_next_of_isBlank trailing.property, hsource, byteLength_append,
    List.map_append, List.append_assoc, Nat.add_assoc]
  rfl

theorem exists_upToError_of_tokenize {dialect : Dialect} {source : String} {e : LexicalError}
    (h : tokenize dialect source = .error e) : ∃ ts, UpToError dialect source e ts := by
  obtain ⟨items, rest, left, hsource, hapart, hpull⟩ := exists_pull_of_cut_eq_error h
  obtain ⟨gap, piece, hmakes⟩ := TokenStream.exists_makes_of_pull hpull
  have hrest : rest = gap ++ (piece ++ left.rest) := hmakes.rest
  have hposition : e.position = byteLength (itemsText items ++ gap) := by
    rw [hmakes.takes.position_error, byteLength_append, Nat.zero_add]
  refine ⟨place 0 items, ⟨itemsText items ++ gap, piece ++ left.rest, ?_, ?_⟩, fun n => ?_⟩
  · rw [hsource, hrest, hposition, ← List.append_assoc]
    exact splitBytes_append _ _
  · change cut dialect.quotes (String.ofList (itemsText items ++ gap)).toList 0 = _
    rw [hrest] at hapart
    rw [String.toList_ofList, cut_items hapart.of_append, cut_of_isBlank hmakes.gap, hposition,
      byteLength_append, Nat.zero_add]
    rfl
  · have hstart : TokenStream.ofString dialect.quotes source =
        ⟨dialect.quotes, itemsText items ++ rest, 0, false⟩ := by rw [← hsource]; rfl
    rw [hstart, length_place, List.replicate_add, TokenStream.answers_items (Or.inr rfl) hapart,
      TokenStream.answers_next_of_error rfl hpull]
    rfl

/-- Tokens one by one are the tokens all at once: those of the whole source if it is cut, and those
of its part before the error if it is not. -/
theorem incremental_eq_batch (dialect : Dialect) (source : String) :
    (∀ ts, tokenize dialect source = .ok ts → InPieces dialect.quotes source ts) ∧
      ∀ e, tokenize dialect source = .error e → ∃ ts, UpToError dialect source e ts := by
  constructor
  · intro ts h
    exact inPieces_of_tokenize h
  · intro e h
    exact exists_upToError_of_tokenize h

end SelectLang
