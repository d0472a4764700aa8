import SelectLang.Proofs.Lexical.Concatenation
import SelectLang.Proofs.Statement.Texts
import SelectLang.Proofs.Text.Entries
import SelectLang.Statement.Parse

/-!
# Statements with blanks at their ends

Blanks before and behind a statement do not matter: a text states the same query with and without
them, and where it states none it fails alike (`parse_trim`).  All that differs is positions.  The
tokens are moved by the length of the blanks in front (`cut_padded`), and an error with them, unless
it is found at the end of the text, which stands behind the last blank.
-/

namespace SelectLang

open Text

variable {quotes : QuoteStyle} {dialect : Dialect}

/-! ## Tokens -/

theorem cut_append_blanks_of_error {cs tail : List Char} {offset : Nat} {e : LexicalError}
    (h : cut quotes cs offset = .error e) (htail : ∀ c ∈ tail, isBlank c = true) :
    cut quotes (cs ++ tail) offset = .error e := by
  refine cut_append_of_error h (fun c hc => htail c (List.mem_of_mem_head? hc)) ?_
  rintro quote position rfl
  exact notMem_of_unclosed h htail

/-- Blanks in front move the tokens and the errors, and blanks behind move the end marker. -/
theorem cut_padded {lead body tail : List Char} (hlead : ∀ c ∈ lead, isBlank c = true)
    (htail : ∀ c ∈ tail, isBlank c = true) :
    cut quotes (lead ++ (body ++ tail)) 0 =
      match cut quotes body 0 with
      | .ok ts => .ok (ts.dropLast.map (Token.shift (byteLength lead)) ++
          [.eof (byteLength (lead ++ (body ++ tail)))])
      | .error e => .error (e.shift (byteLength lead)) := by
  rw [cut_gap_append hlead, cut_add]
  cases hbody : cut quotes body 0 with
  | error e =>
    rw [cut_append_blanks_of_error hbody htail]
    rfl
  | ok ts =>
    have hstop : 0 + byteLength body + byteLength tail + byteLength lead =
        byteLength (lead ++ (body ++ tail)) := by
      simp only [byteLength_append]
      omega
    rw [cut_append_of_ok hbody fun c hc => htail c (List.mem_of_mem_head? hc),
      cut_of_isBlank htail, ← hstop]
    simp [moved, Except.map, shift_eof]

theorem tokenize_padded (dialect : Dialect) (source : String) :
    tokenize dialect source =
      match tokenize dialect (String.ofList (trim source.toList)) with
      | .ok ts => .ok (ts.dropLast.map
          (Token.shift (byteLength (source.toList.takeWhile isBlank))) ++
            [.eof source.utf8ByteSize])
      | .error e => .error (e.shift (byteLength (source.toList.takeWhile isBlank))) := by
  obtain ⟨tail, htail, hsource⟩ := exists_blanks_trim source.toList
  have hlead : ∀ c ∈ source.toList.takeWhile isBlank, isBlank c = true :=
    fun c hc => List.mem_takeWhile_imp hc
  have hpadded := @cut_padded dialect.quotes _ (trim source.toList) _ hlead htail
  rw [hsource, byteLength_toList] at hpadded
  rw [tokenize, tokenize, TokenStream.ofString, TokenStream.ofString, String.toList_ofList]
  exact hpadded

/-! ## Statements -/

/-- Past the last token stands an end marker like the one that the list ends with. -/
theorem tokenAt_append_eof (ts : List Token) (stop i : Nat) :
    tokenAt (ts ++ [.eof stop]) i = ts[i]?.getD (.eof stop) := by
  rw [tokenAt, List.getLast?_concat]
  by_cases hi : i < ts.length
  · rw [List.getElem?_append_left hi, List.getElem?_eq_getElem hi]
    rfl
  · have hlength : ts.length ≤ i := Nat.le_of_not_lt hi
    rw [List.getElem?_append_right hlength, List.getElem?_eq_none hlength]
    cases i - ts.length <;> rfl

/-- Tokens that are moved are read as they were, up to the same token. -/
theorem exists_reads_of_shift (dialect : Dialect) (ts : List Token) (offset stop stop' : Nat) :
    ∃ (r : Except Expected Query) (i : Nat),
      Query.ofTokens dialect (ts.map (Token.shift offset) ++ [.eof stop]) =
          r.mapError (.ofToken ((ts[i]?.map (Token.shift offset)).getD (.eof stop))) ∧
        Query.ofTokens dialect (ts ++ [.eof stop']) =
          r.mapError (.ofToken (ts[i]?.getD (.eof stop'))) := by
  have hmoved : List.Forall₂ (Token.Similar Eq) (ts.map (Token.shift offset)) ts := by
    rw [List.forall₂_map_left_iff, List.forall₂_same]
    intro token _
    exact ⟨rfl, fun _ => rfl⟩
  have hending : List.Forall₂ (Token.Similar Eq) [.eof stop] [.eof stop'] :=
    .cons ⟨rfl, fun _ => rfl⟩ .nil
  obtain ⟨r, r', i, hagree, -, -, hresult, hresult'⟩ :=
    exists_reads_of_similar dialect (List.rel_append hmoved hending)
  rw [tokenAt_append_eof] at hresult hresult'
  rw [List.getElem?_map] at hresult
  have hsame : r = r' := by
    cases hagree with
    | ok hq => rw [hq.eq]
    | error e => rfl
  subst hsame
  exact ⟨r, i, hresult, hresult'⟩

/-- An error of a text of `size` bytes, `lead` of them blanks in front, and the error that comes in
its place when the blanks are taken off both ends, which leaves `stop` bytes. -/
inductive QueryError.Trimmed (lead size stop : Nat) : QueryError → QueryError → Prop
  | unexpectedCharacter (c : Char) (position : Nat) :
      Trimmed lead size stop (.lexical (.unexpectedCharacter c (position + lead)))
        (.lexical (.unexpectedCharacter c position))
  | unterminatedString (quote : Char) (position : Nat) :
      Trimmed lead size stop (.lexical (.unterminatedString quote (position + lead)))
        (.lexical (.unterminatedString quote position))
  | token {found : Kind} (hfound : found ≠ .eof) (expected : Expected) (text : String)
      (position : Nat) :
      Trimmed lead size stop (.syntactic ⟨expected, found, text, position + lead⟩)
        (.syntactic ⟨expected, found, text, position⟩)
  | ending (expected : Expected) (text : String) :
      Trimmed lead size stop (.syntactic ⟨expected, .eof, text, size⟩)
        (.syntactic ⟨expected, .eof, text, stop⟩)

theorem trimmed_shift (lead size stop : Nat) (e : LexicalError) :
    QueryError.Trimmed lead size stop (.lexical (e.shift lead)) (.lexical e) := by
  cases e with
  | unexpectedCharacter c position => exact .unexpectedCharacter c position
  | unterminatedString quote position => exact .unterminatedString quote position

/-- The error at a token that was moved, or at the end marker. -/
theorem trimmed_ofToken {ts : List Token} (hts : ∀ token ∈ ts, token.kind ≠ .eof)
    (lead size stop i : Nat) (expected : Expected) :
    QueryError.Trimmed lead size stop
      (.syntactic (.ofToken ((ts[i]?.map (Token.shift lead)).getD (.eof size)) expected))
      (.syntactic (.ofToken (ts[i]?.getD (.eof stop)) expected)) := by
  cases htoken : ts[i]? with
  | none => exact .ending expected ""
  | some token =>
    exact .token (hts token (List.mem_of_getElem? htoken)) expected token.text token.position

/-- A text without the blanks at its ends states the same query, or fails alike. -/
theorem exists_parse_trim (dialect : Dialect) (source : String) :
    (∃ q, Query.parse dialect (String.ofList (trim source.toList)) = .ok q ∧
        Query.parse dialect source = .ok q) ∨
      ∃ e e', Query.parse dialect (String.ofList (trim source.toList)) = .error e' ∧
        Query.parse dialect source = .error e ∧
        e.Trimmed (byteLength (source.toList.takeWhile isBlank)) source.utf8ByteSize
          (String.ofList (trim source.toList)).utf8ByteSize e' := by
  rw [Query.parse, Query.parse, tokenize_padded dialect source]
  generalize byteLength (source.toList.takeWhile isBlank) = lead
  generalize String.ofList (trim source.toList) = trimmed
  cases htokens : tokenize dialect trimmed with
  | error e => exact Or.inr ⟨_, _, rfl, rfl, trimmed_shift _ _ _ e⟩
  | ok ts =>
    obtain ⟨us, rfl, hus⟩ := exists_tokens_of_tokenize htokens
    obtain ⟨r, i, hsource, htrimmed⟩ :=
      exists_reads_of_shift dialect us lead source.utf8ByteSize trimmed.utf8ByteSize
    dsimp only
    rw [List.dropLast_concat, hsource, htrimmed]
    cases r with
    | ok q => exact Or.inl ⟨q, rfl, rfl⟩
    | error expected =>
      exact Or.inr ⟨_, _, rfl, rfl, trimmed_ofToken hus lead _ _ i expected⟩

/-- A text without the blanks at its ends states the same query.  Where it states none, the error
is the same, and stands at the same place in it. -/
theorem parse_trim (dialect : Dialect) (source : String) :
    let trimmed := String.ofList (trim source.toList)
    (∀ q, Query.parse dialect trimmed = .ok q ↔ Query.parse dialect source = .ok q) ∧
      ∀ e, Query.parse dialect source = .error e →
        ∃ e', Query.parse dialect trimmed = .error e' ∧
          e.Trimmed (byteLength (source.toList.takeWhile isBlank)) source.utf8ByteSize
            trimmed.utf8ByteSize e' := by
  intro trimmed
  rcases exists_parse_trim dialect source with
    ⟨q, htrimmed, hsource⟩ | ⟨e, e', htrimmed, hsource, herror⟩
  · rw [htrimmed, hsource]
    constructor
    · intro q'
      rfl
    · intro e he
      cases he
  · rw [htrimmed, hsource]
    constructor
    · intro q
      constructor <;> intro h <;> cases h
    · intro e₁ he
      obtain rfl := Except.error.inj he
      exact ⟨e', rfl, herror⟩

/-- The end of a text stands behind its last blank. -/
example :
    Query.parse .lenient " SELECT * FROM  " =
        .error (.syntactic ⟨.kind .identifier, .eof, "", 16⟩) ∧
      Query.parse .lenient "SELECT * FROM" =
        .error (.syntactic ⟨.kind .identifier, .eof, "", 13⟩) := by
  decide +kernel

end SelectLang
