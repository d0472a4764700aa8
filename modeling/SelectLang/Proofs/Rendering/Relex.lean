import SelectLang.Proofs.Lexical.Layout
import SelectLang.Proofs.Query.Similar
import SelectLang.Proofs.Rendering.Written

/-!
# Cutting a rendered text

The text of tokens in plain form is cut back into tokens of the same kinds that carry the same texts
(`cut_written`), unless a string stands in quotes that the dialect does not accept: the opening
quote is then a stray character (`cut_written_eq_error`).
-/

namespace SelectLang

open Text

variable {quotes : QuoteStyle}

/-! ## Tokens that can be written -/

/-- The token in plain form is a lexeme. -/
def Token.Writable (quotes : QuoteStyle) (token : Token) : Prop :=
  IsLexeme quotes token.spelled token.kind token.plainText

theorem toList_render_string (content : String) :
    (Operand.string content).render.toList =
      Operand.quoteFor content :: (content.toList ++ [Operand.quoteFor content]) := by
  simp [Operand.render, Char.toString]

theorem quoteFor_eq (content : String) :
    Operand.quoteFor content = '\'' ∨ Operand.quoteFor content = '"' := by
  unfold Operand.quoteFor
  split
  · exact Or.inr rfl
  · exact Or.inl rfl

/-- A string that lacks one of the two quotes is put into one that it lacks. -/
theorem quoteFor_notMem {content : String} {quote : Char} (hquote : quotes.accepts quote = true)
    (h : quote ∉ content.toList) : Operand.quoteFor content ∉ content.toList := by
  intro hmem
  obtain ⟨hsingle, hdouble⟩ := (Operand.quoteFor_mem_iff content).1 hmem
  rcases eq_of_accepts hquote with rfl | rfl
  · exact h hsingle
  · exact h hdouble

theorem isWord_spelling (k : Keyword) : IsWord k.spelling.toList := by
  have hhead : k.spelling.toList.head?.any beginsWord = true := by cases k <;> decide
  have hall : k.spelling.toList.all continuesWord = true := by cases k <;> decide
  cases hk : k.spelling.toList with
  | nil => simp [hk] at hhead
  | cons c cs =>
    rw [hk] at hhead hall
    refine isWord_iff.2 ⟨c, cs, rfl, hhead, fun d hd => ?_⟩
    exact List.all_eq_true.1 hall d (List.mem_cons_of_mem _ hd)

theorem exists_isSymbol_sign {spelling : String} {kind : Kind} (h : IsSymbol spelling kind) :
    ∃ sign, kind.sign? = some sign ∧ IsSymbol sign kind ∧ kind ≠ .string := by
  cases h <;> exact ⟨_, rfl, by constructor, by decide⟩

/-- A keyword can be written whatever its text is. -/
theorem writable_of_keyword {token : Token} {k : Keyword} (h : token.kind = .keyword k) :
    token.Writable quotes := by
  have hspelled : token.spelled = k.spelling.toList := by
    simp [Token.spelled, Token.plainText, h, Kind.sign?]
  have hplain : token.plainText = k.spelling := by simp [Token.plainText, h, Kind.sign?]
  rw [Token.Writable, hspelled, hplain, h]
  exact .keyword k (isWord_spelling k) rfl

/-- A token that has been cut from a text can be written, if the quotes of a string are accepted. -/
theorem writable_of_isLexeme {quotes' : QuoteStyle} {token : Token} {spelling : List Char}
    (h : IsLexeme quotes' spelling token.kind token.text)
    (hstring : token.kind = .string → quotes.accepts (Operand.quoteFor token.text) = true) :
    token.Writable quotes := by
  generalize hkind : token.kind = kind at h
  generalize htext : token.text = text at h
  cases h with
  | keyword k _ _ => exact writable_of_keyword hkind
  | name hword hname =>
    have hplain : token.plainText = String.ofList spelling := by
      simp [Token.plainText, hkind, htext, Kind.sign?]
    have hspelled : token.spelled = spelling := by simp [Token.spelled, hplain, hkind]
    rw [Token.Writable, hspelled, hplain, hkind]
    exact .name hword hname
  | number hdigits =>
    have hplain : token.plainText = String.ofList spelling := by
      simp [Token.plainText, hkind, htext, Kind.sign?]
    have hspelled : token.spelled = spelling := by simp [Token.spelled, hplain, hkind]
    rw [Token.Writable, hspelled, hplain, hkind]
    exact .number hdigits
  | @string quote content hquote hcontent =>
    have hplain : token.plainText = String.ofList content := by
      simp [Token.plainText, hkind, htext, Kind.sign?]
    have hspelled : token.spelled = Operand.quoteFor token.text ::
        (content ++ [Operand.quoteFor token.text]) := by
      simp [Token.spelled, hkind, htext, toList_render_string]
    have hnot : Operand.quoteFor token.text ∉ token.text.toList :=
      quoteFor_notMem hquote (by simpa [htext] using hcontent)
    rw [Token.Writable, hspelled, hplain, hkind]
    exact .string (hstring hkind) (by simpa [htext] using hnot)
  | symbol hsymbol =>
    obtain ⟨sign, hsign, hwritten, hne⟩ := exists_isSymbol_sign hsymbol
    have hplain : token.plainText = sign := by simp [Token.plainText, hkind, hsign]
    have hspelled : token.spelled = sign.toList := by simp [Token.spelled, hplain, hkind, hne]
    rw [Token.Writable, hspelled, hplain, hkind]
    exact .symbol hwritten

/-! ## Laying the tokens out -/

/-- The item is how the token stands in a rendered text. -/
structure Shows (token : Token) (item : Item quotes) : Prop where
  gap : item.gap.val = token.lead
  spelling : item.lexeme.spelling = token.spelled
  kind : item.lexeme.kind = token.kind
  text : item.lexeme.text = token.plainText

theorem isBlank_of_mem_lead {token : Token} {c : Char} (h : c ∈ token.lead) :
    isBlank c = true := by
  unfold Token.lead at h
  split at h
  · cases h
  · rw [List.mem_singleton.1 h]
    exact isBlank_space

theorem exists_items {ts : List Token} (h : ∀ token ∈ ts, token.Writable quotes) :
    ∃ items : List (Item quotes), itemsText items = written ts ∧ List.Forall₂ Shows ts items := by
  induction ts with
  | nil => exact ⟨[], rfl, .nil⟩
  | cons token ts ih =>
    obtain ⟨items, htext, hshows⟩ := ih fun t ht => h t (List.mem_cons_of_mem _ ht)
    have hlexeme := h token List.mem_cons_self
    refine ⟨⟨⟨token.lead, fun _ => isBlank_of_mem_lead⟩, ⟨_, _, _, hlexeme⟩⟩ :: items, ?_,
      .cons ⟨rfl, rfl, rfl, rfl⟩ hshows⟩
    rw [itemsText_cons, written_cons, htext]

/-- With no gap before it, a lexeme is a comma or a semicolon, which fuses with nothing. -/
theorem apart_of_shows {ts : List Token} {items : List (Item quotes)} {rest : List Char}
    (h : List.Forall₂ Shows ts items) (hrest : ∀ c ∈ rest.head?, isBlank c = true) :
    Apart items rest := by
  rw [apart_iff_isChain hrest]
  induction h with
  | nil => exact List.isChain_nil
  | cons hfirst hothers ih =>
    cases hothers with
    | nil => exact List.isChain_singleton _
    | cons hnext hothers =>
      refine List.isChain_cons_cons.2 ⟨fun hgap => ?_, ih⟩
      rw [hnext.gap, Token.lead] at hgap
      split at hgap
      · rename_i hkind
        rw [hnext.kind]
        rcases hkind with hkind | hkind <;> simp [hkind, Fuses, Kind.IsOfWord]
      · cases hgap

/-- The kind of the token and the text that it has in plain form. -/
def Token.plainLabel (token : Token) : Kind × String := (token.kind, token.plainText)

/-- The tokens of the items are those that they show, in plain form. -/
theorem labels_place {ts : List Token} {items : List (Item quotes)} {offset : Nat}
    (h : List.Forall₂ Shows ts items) :
    (place offset items).map Token.label = ts.map Token.plainLabel := by
  induction h generalizing offset with
  | nil => rfl
  | cons hfirst _ ih =>
    rw [place, List.map_cons, ih, List.map_cons, Token.label, Token.plainLabel, hfirst.kind,
      hfirst.text]

theorem similar_of_label_eq {token token' : Token} (h : token'.label = token.plainLabel) :
    token.Similar Eq token' := by
  obtain ⟨hkind, htext⟩ := Prod.mk.inj h
  refine ⟨hkind.symm, fun hcarries => ?_⟩
  rw [htext]
  rcases hcarries with hkind | hkind | hkind <;> simp [Token.plainText, hkind, Kind.sign?]

/-- In plain form a token keeps the text that stands for itself. -/
theorem similar_of_labels_eq {ts ts' : List Token}
    (h : ts'.map Token.label = ts.map Token.plainLabel) :
    List.Forall₂ (Token.Similar Eq) ts ts' := by
  rw [← List.forall₂_eq_eq_eq, List.forall₂_map_left_iff, List.forall₂_map_right_iff] at h
  exact h.flip.imp fun _ _ => similar_of_label_eq

/-- A rendered text begins without the blank that stands before its first token otherwise. -/
theorem exists_items_of_written {ts : List Token} {cs rest : List Char}
    (hcs : ' ' :: cs = written ts ++ rest) (hts : ts ≠ [])
    (h : ∀ token ∈ ts, token.Writable quotes) (hrest : ∀ c ∈ rest.head?, isBlank c = true) :
    ∃ items : List (Item quotes), cs = itemsText items ++ rest ∧ Apart items rest ∧
      (place 0 items).map Token.label = ts.map Token.plainLabel := by
  obtain ⟨items, htext, hshows⟩ := exists_items h
  have hapart := apart_of_shows hshows hrest
  cases hshows with
  | nil => exact absurd rfl hts
  | @cons token item ts items hfirst hothers =>
    have hgap : item.gap.val = [' '] := by
      rw [hfirst.gap, Token.lead]
      split
      · rename_i hkind
        obtain ⟨c, cs', hspelling, hc⟩ := heads_of_isLexeme item.lexeme.isLexeme
        rw [← htext, itemsText_cons, hfirst.gap, Token.lead, if_pos hkind, hspelling] at hcs
        obtain ⟨rfl, -⟩ := List.cons.inj hcs
        cases hc.isBlank
      · rfl
    rw [← htext, itemsText_cons, hgap] at hcs
    refine ⟨⟨⟨[], by simp⟩, item.lexeme⟩ :: items, ?_, hapart, ?_⟩
    · rw [itemsText_cons]
      exact (List.cons.inj hcs).2
    · rw [place, List.map_cons, labels_place hothers, List.map_cons, Token.label, Token.plainLabel,
        hfirst.kind, hfirst.text]

/-! ## Cutting -/

/-- A rendered text is cut back into its tokens, which come in plain form. -/
theorem cut_written {ts : List Token} {cs : List Char} (hcs : ' ' :: cs = written ts)
    (h : ∀ token ∈ ts, token.Writable quotes) :
    ∃ (ts' : List Token) (stop : Nat), cut quotes cs 0 = .ok (ts' ++ [.eof stop]) ∧
      ts'.map Token.label = ts.map Token.plainLabel ∧ ∀ token ∈ ts', token.kind ≠ .eof := by
  have hts : ts ≠ [] := by
    rintro rfl
    cases hcs
  have hnil : ' ' :: cs = written ts ++ [] := by rw [List.append_nil, hcs]
  obtain ⟨items, rfl, hapart, hlabels⟩ := exists_items_of_written hnil hts h (by simp)
  refine ⟨place 0 items, 0 + byteLength (itemsText items) + byteLength [], ?_, hlabels,
    fun token htoken => kind_ne_eof_of_mem_place htoken⟩
  rw [cut_items hapart, cut_of_isBlank (by simp)]
  rfl

/-- The token is a string that is put into quotes which are not accepted. -/
def Token.Misquoted (quotes : QuoteStyle) (token : Token) : Prop :=
  token.kind = .string ∧ quotes.accepts (Operand.quoteFor token.text) = false

instance : DecidablePred (Token.Misquoted quotes) := fun _ => inferInstanceAs (Decidable (_ ∧ _))

theorem exists_written_of_misquoted {token : Token} (h : token.Misquoted quotes) (ts : List Token) :
    ∃ c rest, written (token :: ts) = ' ' :: c :: rest ∧
      scan? quotes (c :: rest) = some ⟨.stray c, [c], rest⟩ ∧ isBlank c = false := by
  obtain ⟨hkind, hquotes⟩ := h
  have hquote := quoteFor_eq token.text
  have hlead : token.lead = [' '] := by simp [Token.lead, hkind]
  have hspelled : token.spelled = Operand.quoteFor token.text ::
      (token.text.toList ++ [Operand.quoteFor token.text]) := by
    simp [Token.spelled, hkind, toList_render_string]
  refine ⟨Operand.quoteFor token.text,
    (token.text.toList ++ [Operand.quoteFor token.text]) ++ written ts, ?_,
    scan?_quote hquote hquotes, ?_⟩
  · rw [written_cons, hlead, hspelled]
    rfl
  · rcases hquote with hc | hc <;> rw [hc] <;> decide

/-- A rendered text with a misquoted string is cut no further than to the first one. -/
theorem cut_written_eq_error {ts : List Token} {cs : List Char} (hcs : ' ' :: cs = written ts)
    (h : ∀ token ∈ ts, ¬ token.Misquoted quotes → token.Writable quotes)
    (hbad : ∃ token ∈ ts, token.Misquoted quotes) : ∃ e, cut quotes cs 0 = .error e := by
  obtain ⟨bad, hfind⟩ :
      ∃ bad, ts.find? (fun token => decide (token.Misquoted quotes)) = some bad := by
    rw [← Option.isSome_iff_exists, List.find?_isSome]
    simpa using hbad
  obtain ⟨hmisquoted, before, after, rfl, hbefore⟩ := List.find?_eq_some_iff_append.1 hfind
  obtain ⟨c, rest, hwritten, hscan, hblank⟩ :=
    exists_written_of_misquoted (of_decide_eq_true hmisquoted) after
  rw [written_append, hwritten] at hcs
  cases before with
  | nil =>
    obtain rfl := (List.cons.inj hcs).2
    exact ⟨_, @cut_stray quotes [] rest c 0 (by simp) hblank hscan⟩
  | cons first before =>
    have hwritable : ∀ token ∈ first :: before, token.Writable quotes := by
      intro token htoken
      refine h token (List.mem_append_left _ htoken) ?_
      simpa using hbefore token htoken
    obtain ⟨items, rfl, hapart, -⟩ := exists_items_of_written hcs (List.cons_ne_nil _ _) hwritable
      (by simp [isBlank_space])
    have hstray := @cut_stray quotes [' '] rest c (0 + byteLength (itemsText items))
      (by simp [isBlank_space]) hblank hscan
    rw [List.singleton_append] at hstray
    rw [cut_items hapart, hstray]
    exact ⟨_, rfl⟩

end SelectLang
