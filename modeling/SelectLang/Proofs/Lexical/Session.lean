import SelectLang.Proofs.Lexical.Pull

/-!
# Sessions

A token stream can be asked for one token, for the next item of an iteration, for all tokens that
are left or for all items of an iteration, in any order, and after an error as well.  A session is a
list of such calls.  Each call comes down to pulls, and the pulls of all calls, one after the other,
cut the text that the session has consumed into gaps and pieces (`exists_lawfulLog`).
-/

namespace SelectLang

open Text

/-! ## Calls -/

/-- What a token stream can be asked for. -/
inductive Call where
  /-- One token. -/
  | pull
  /-- The next item of an iteration. -/
  | next
  /-- All tokens that are left. -/
  | drain
  /-- All items of an iteration. -/
  | items
  deriving DecidableEq, Repr

/-- What a token stream answers. -/
inductive Answer where
  | pulled (answer : Except LexicalError Token)
  | yielded (item : Option (Except LexicalError Token))
  | drained (tokens : Except LexicalError (List Token))
  | collected (items : List (Except LexicalError Token))
  deriving DecidableEq

namespace TokenStream

/-- The answer to a call, and the stream left. -/
def perform (stream : TokenStream) : Call → Answer × TokenStream
  | .pull => (.pulled stream.pull.1, stream.pull.2)
  | .next =>
      match stream.next? with
      | none => (.yielded none, stream)
      | some (item, left) => (.yielded (some item), left)
  | .drain => (.drained stream.drain.1, stream.drain.2)
  | .items => (.collected stream.items.1, stream.items.2)

/-- The answers to calls that are made one after the other, each with the stream left. -/
def run (stream : TokenStream) : List Call → List (Answer × TokenStream)
  | [] => []
  | call :: calls => stream.perform call :: (stream.perform call).2.run calls

end TokenStream

/-! ## Pulls in a row -/

namespace TokenStream

/-- The pulls, one after the other, lead from a stream to another. -/
def Follows (stream : TokenStream) : List Pull → TokenStream → Prop
  | [], left => left = stream
  | pull :: pulls, left => stream.Makes pull ∧ pull.left.Follows pulls left

theorem follows_append_iff {stream left : TokenStream} {pulls more : List Pull} :
    stream.Follows (pulls ++ more) left ↔
      ∃ middle, stream.Follows pulls middle ∧ middle.Follows more left := by
  induction pulls generalizing stream with
  | nil => simp [Follows]
  | cons pull pulls ih => simp [Follows, ih, and_assoc]

end TokenStream

/-- The text that the pulls take. -/
def taken (pulls : List Pull) : List Char := pulls.flatMap fun pull => pull.gap ++ pull.piece

@[simp] theorem taken_nil : taken [] = [] := rfl

@[simp] theorem taken_cons (pull : Pull) (pulls : List Pull) :
    taken (pull :: pulls) = pull.gap ++ (pull.piece ++ taken pulls) := by
  rw [taken, List.flatMap_cons, List.append_assoc]
  rfl

namespace TokenStream.Follows

variable {stream left : TokenStream} {pulls : List Pull}

theorem quotes (h : stream.Follows pulls left) : left.quotes = stream.quotes := by
  induction pulls generalizing stream with
  | nil => rw [h]
  | cons pull pulls ih => rw [ih h.2, h.1.quotes]

theorem rest (h : stream.Follows pulls left) : stream.rest = taken pulls ++ left.rest := by
  induction pulls generalizing stream with
  | nil => rw [h, taken_nil, List.nil_append]
  | cons pull pulls ih =>
    rw [h.1.rest, ih h.2, taken_cons, List.append_assoc, List.append_assoc]

theorem offset (h : stream.Follows pulls left) :
    left.offset = stream.offset + byteLength (taken pulls) := by
  induction pulls generalizing stream with
  | nil => rw [h, taken_nil, byteLength_nil, Nat.add_zero]
  | cons pull pulls ih =>
    rw [ih h.2, h.1.offset, taken_cons, byteLength_append, byteLength_append]
    omega

/-- An iteration has ended if it had ended before, or a pull closed it. -/
theorem exhausted (h : stream.Follows pulls left) :
    left.exhausted = (stream.exhausted || pulls.any Pull.closes) := by
  induction pulls generalizing stream with
  | nil => rw [h, List.any_nil, Bool.or_false]
  | cons pull pulls ih => rw [ih h.2, h.1.exhausted, List.any_cons, Bool.or_assoc]

end TokenStream.Follows

/-! ## The pulls of a call -/

/-- The answer to a call, told from the pulls that were made for it. -/
inductive Reports : Call → List Pull → Answer → Prop
  | pull {pull : Pull} (h : pull.iterating = false) :
      Reports .pull [pull] (.pulled pull.answer)
  | ended : Reports .next [] (.yielded none)
  | next {pull : Pull} (h : pull.iterating = true) :
      Reports .next [pull] (.yielded (some pull.answer))
  /-- Pulls up to the first that answers the end marker or an error. -/
  | drain {pulls : List Pull} {last : Pull} {tokens : Except LexicalError (List Token)}
      (h : ∀ pull ∈ pulls ++ [last], pull.iterating = false)
      (hpulls : ∀ pull ∈ pulls, pull.isLast = false) (hlast : last.isLast = true)
      (htokens : (pulls ++ [last]).mapM Pull.answer = tokens) :
      Reports .drain (pulls ++ [last]) (.drained tokens)
  /-- Pulls as long as the iteration goes on. -/
  | items {pulls : List Pull} (h : ∀ pull ∈ pulls, pull.iterating = true) :
      Reports .items pulls (.collected (pulls.map Pull.answer))

theorem reports_drain_singleton {last : Pull} (h : last.iterating = false)
    (hlast : last.isLast = true) :
    Reports .drain [last] (.drained (last.answer.map fun token => [token])) := by
  refine @Reports.drain [] last _ (by simpa using h) (by simp) hlast ?_
  rw [List.nil_append, List.mapM_cons, List.mapM_nil]
  cases last.answer <;> rfl

theorem Reports.drain_cons {first : Pull} {token : Token} {pulls : List Pull}
    {tokens : Except LexicalError (List Token)} (h : first.iterating = false)
    (hanswer : first.answer = .ok token) (htoken : token.isEof = false)
    (hpulls : Reports .drain pulls (.drained tokens)) :
    Reports .drain (first :: pulls) (.drained (tokens.map (token :: ·))) := by
  cases hpulls with
  | @drain pulls last _ hiterating hnotLast hlast htokens =>
    have hfirst : first.isLast = false := by rwa [Pull.isLast, hanswer]
    refine @Reports.drain (first :: pulls) last _ (List.forall_mem_cons.2 ⟨h, hiterating⟩)
      (List.forall_mem_cons.2 ⟨hfirst, hnotLast⟩) hlast ?_
    rw [List.cons_append, List.mapM_cons, hanswer, htokens]
    cases tokens <;> rfl

namespace TokenStream

/-- After a token that does not mark the end, the stream left is drained. -/
theorem exists_reports_drain_cons {stream left final : TokenStream} {token : Token}
    {tokens : Except LexicalError (List Token)} (hpull : stream.pull = (.ok token, left))
    (heof : token.isEof = false)
    (hleft : ∃ pulls, left.Follows pulls final ∧ Reports .drain pulls (.drained tokens)) :
    ∃ pulls, stream.Follows pulls final ∧
      Reports .drain pulls (.drained (tokens.map (token :: ·))) := by
  obtain ⟨gap, piece, hmakes⟩ := exists_makes_of_pull hpull
  obtain ⟨pulls, hfollows, hreports⟩ := hleft
  exact ⟨_ :: pulls, ⟨hmakes, hfollows⟩, hreports.drain_cons rfl rfl heof⟩

theorem exists_reports_drain (stream : TokenStream) :
    ∃ pulls, stream.Follows pulls stream.drain.2 ∧
      Reports .drain pulls (.drained stream.drain.1) := by
  fun_induction drain stream with
  | case1 stream e left hpull =>
    obtain ⟨gap, piece, hmakes⟩ := exists_makes_of_pull hpull
    exact ⟨[_], ⟨hmakes, rfl⟩, @reports_drain_singleton ⟨false, gap, piece, .error e, left⟩ rfl rfl⟩
  | case2 stream token left hpull heof =>
    obtain ⟨gap, piece, hmakes⟩ := exists_makes_of_pull hpull
    exact ⟨[_], ⟨hmakes, rfl⟩,
      @reports_drain_singleton ⟨false, gap, piece, .ok token, left⟩ rfl heof⟩
  | case3 stream token left hpull heof tokens final hdrain ih =>
    rw [hdrain] at ih
    exact exists_reports_drain_cons hpull (Bool.eq_false_iff.2 heof) ih
  | case4 stream token left hpull heof e final hdrain ih =>
    rw [hdrain] at ih
    exact exists_reports_drain_cons hpull (Bool.eq_false_iff.2 heof) ih

theorem exists_reports_items (stream : TokenStream) :
    ∃ pulls, stream.Follows pulls stream.items.2 ∧
      Reports .items pulls (.collected stream.items.1) := by
  fun_induction items stream with
  | case1 stream hnext => exact ⟨[], rfl, .items (by simp)⟩
  | case2 stream item left hnext others final hitems ih =>
    obtain ⟨gap, piece, hmakes⟩ := exists_makes_of_next? hnext
    rw [hitems] at ih
    obtain ⟨pulls, hfollows, hreports⟩ := ih
    cases hreports with
    | items h => exact ⟨_ :: pulls, ⟨hmakes, hfollows⟩, .items (List.forall_mem_cons.2 ⟨rfl, h⟩)⟩

/-- Whatever a stream is asked for, it makes the pulls that its answer reports. -/
theorem exists_reports (stream : TokenStream) (call : Call) :
    ∃ pulls, stream.Follows pulls (stream.perform call).2 ∧
      Reports call pulls (stream.perform call).1 := by
  cases call with
  | pull =>
    obtain ⟨gap, piece, hmakes⟩ := @exists_makes_of_pull stream _ _ rfl
    exact ⟨[_], ⟨hmakes, rfl⟩, .pull rfl⟩
  | next =>
    rw [perform]
    split
    · exact ⟨[], rfl, .ended⟩
    · rename_i item left hnext
      obtain ⟨gap, piece, hmakes⟩ := exists_makes_of_next? hnext
      exact ⟨[_], ⟨hmakes, rfl⟩, .next rfl⟩
  | drain => exact stream.exists_reports_drain
  | items => exact stream.exists_reports_items

theorem exhausted_items (stream : TokenStream) : stream.items.2.exhausted = true := by
  fun_induction items stream with
  | case1 stream hnext => exact next?_eq_none_iff.1 hnext
  | case2 stream item left hnext others final hitems ih =>
    rw [hitems] at ih
    exact ih

end TokenStream

/-! ## Logs -/

/-- A call, the pulls that it came down to, the answer, and the stream left. -/
structure Entry where
  call : Call
  pulls : List Pull
  answer : Answer
  left : TokenStream

/-- The pulls of all calls in order. -/
def history (log : List Entry) : List Pull := log.flatMap Entry.pulls

/-- The entries tell what happened to the stream in a session. -/
def TokenStream.Logs (stream : TokenStream) : List Entry → Prop
  | [] => True
  | entry :: log =>
      stream.perform entry.call = (entry.answer, entry.left) ∧
        stream.Follows entry.pulls entry.left ∧ Reports entry.call entry.pulls entry.answer ∧
        entry.left.Logs log

namespace TokenStream

theorem exists_logs (stream : TokenStream) (calls : List Call) :
    ∃ log, stream.Logs log ∧ log.map Entry.call = calls ∧
      log.map (fun entry => (entry.answer, entry.left)) = stream.run calls := by
  induction calls generalizing stream with
  | nil => exact ⟨[], trivial, rfl, rfl⟩
  | cons call calls ih =>
    obtain ⟨pulls, hfollows, hreports⟩ := stream.exists_reports call
    obtain ⟨log, hlog, hcalls, hrun⟩ := ih (stream.perform call).2
    refine ⟨⟨call, pulls, _, _⟩ :: log, ⟨rfl, hfollows, hreports, hlog⟩, ?_, ?_⟩
    · rw [List.map_cons, hcalls]
    · rw [List.map_cons, hrun, run]

/-- A log can be cut before any entry. -/
theorem Logs.exists_follows {stream : TokenStream} {before after : List Entry}
    (h : stream.Logs (before ++ after)) :
    ∃ middle, stream.Follows (history before) middle ∧ middle.Logs after := by
  induction before generalizing stream with
  | nil => exact ⟨stream, rfl, h⟩
  | cons entry before ih =>
    obtain ⟨-, hentry, -, hlog⟩ := h
    obtain ⟨middle, hfollows, hafter⟩ := ih hlog
    exact ⟨middle, follows_append_iff.2 ⟨_, hentry, hfollows⟩, hafter⟩

end TokenStream

/-! ## What holds of every session -/

/-- What holds of a pull that comes after others in a session on the source. -/
structure Pull.Lawful (quotes : QuoteStyle) (source : String) (before : List Pull) (pull : Pull) :
    Prop where
  /-- Only blanks are skipped. -/
  gap : ∀ c ∈ pull.gap, isBlank c = true
  /-- The answer is about the piece, which begins where the gap ends. -/
  takes : Takes quotes (byteLength (taken before ++ pull.gap)) pull.answer pull.piece pull.left.rest
  /-- The pieces and the gaps so far are all of the source up to the place reached, which is at the
  end of a character. -/
  position : splitBytes pull.left.offset source.toList =
    some (taken before ++ (pull.gap ++ pull.piece), pull.left.rest)
  /-- The stream does not move back, and moves on unless it has come to the end. -/
  forward : byteLength (taken before) ≤ pull.left.offset ∧
    (pull.isEnd = false → byteLength (taken before) < pull.left.offset)
  /-- The span of a token is the place of its piece. -/
  slice : ∀ token, pull.answer = .ok token → token.span.slice? source.toList = some pull.piece
  /-- The content of a string is what stands between the quotes. -/
  content : ∀ token, pull.answer = .ok token → token.kind = .string →
    ∃ quote, quotes.accepts quote = true ∧ quote.utf8Size ≤ pull.left.offset ∧
      sliceBytes (token.span.start + quote.utf8Size) (pull.left.offset - quote.utf8Size)
        source.toList = some token.text.toList

/-- What holds of a session on the source. -/
structure LawfulLog (quotes : QuoteStyle) (source : String) (log : List Entry) : Prop where
  /-- After each call the stream stands at the end of all that its pulls have taken. -/
  position : ∀ before entry after, log = before ++ entry :: after →
    splitBytes entry.left.offset source.toList =
      some (taken (history (before ++ [entry])), entry.left.rest)
  /-- Each pull goes on where those before it have stopped. -/
  pull : ∀ before pull after, history log = before ++ pull :: after →
    pull.Lawful quotes source before
  /-- There are no more pulls before the end than characters. -/
  bounded : ∀ before after, history log = before ++ after → source.length < before.length →
    ∃ pull ∈ before, pull.isEnd = true
  /-- After the end marker there is nothing but the same end marker. -/
  ended : ∀ before pull after, history log = before ++ pull :: after → pull.isEnd = true →
    pull.answer = .ok (.eof source.utf8ByteSize) ∧
      ∀ later ∈ after, later.answer = .ok (.eof source.utf8ByteSize)
  /-- There is no next item just if an earlier pull has closed the iteration. -/
  next : ∀ before entry after, log = before ++ entry :: after → entry.call = .next →
    (entry.answer = .yielded none ↔ ∃ pull ∈ history before, pull.closes = true)
  /-- All items are collected up to the pull that closes the iteration, if none did earlier. -/
  items : ∀ before entry after, log = before ++ entry :: after → entry.call = .items →
    ∀ front back, entry.pulls = front ++ back →
      (back = [] ↔ ∃ pull ∈ history before ++ front, pull.closes = true)

section

variable {quotes : QuoteStyle} {source : String}

open TokenStream (ofString)

/-! ### Pulls -/

theorem toList_eq_of_follows {stream : TokenStream} {pulls : List Pull}
    (h : (ofString quotes source).Follows pulls stream) :
    source.toList = taken pulls ++ stream.rest ∧ stream.offset = byteLength (taken pulls) ∧
      stream.quotes = quotes :=
  ⟨h.rest, h.offset.trans (Nat.zero_add _), h.quotes⟩

theorem splitBytes_of_follows {stream : TokenStream} {pulls : List Pull}
    (h : (ofString quotes source).Follows pulls stream) :
    splitBytes stream.offset source.toList = some (taken pulls, stream.rest) := by
  obtain ⟨hsource, hoffset, -⟩ := toList_eq_of_follows h
  exact splitBytes_eq_some_iff.2 ⟨hsource, hoffset.symm⟩

/-- The content of a string token, between its quotes. -/
theorem exists_content {piece : List Char} {text : String}
    (h : IsLexeme quotes piece .string text) :
    ∃ quote, quotes.accepts quote = true ∧ piece = quote :: (text.toList ++ [quote]) := by
  cases h with
  | @string quote content hquote hcontent => exact ⟨quote, hquote, by rw [String.toList_ofList]⟩
  | symbol hsymbol => cases hsymbol

/-- What stands between the quotes of a string can be cut out of a text. -/
theorem sliceBytes_between (quote : Char) (front content rest : List Char) :
    sliceBytes (byteLength front + quote.utf8Size)
      (byteLength front + byteLength (quote :: (content ++ [quote])) - quote.utf8Size)
      (front ++ ((quote :: (content ++ [quote])) ++ rest)) = some content := by
  have hstart : byteLength front + quote.utf8Size = byteLength (front ++ [quote]) := by simp
  have hstop : byteLength front + byteLength (quote :: (content ++ [quote])) - quote.utf8Size =
      byteLength (front ++ [quote]) + byteLength content := by
    simp only [byteLength_cons, byteLength_append, byteLength_nil]
    omega
  have htext : front ++ ((quote :: (content ++ [quote])) ++ rest) =
      (front ++ [quote]) ++ (content ++ (quote :: rest)) := by simp
  rw [hstart, hstop, htext, sliceBytes_append]

theorem lawful_of_makes {stream : TokenStream} {before : List Pull} {pull : Pull}
    (hbefore : (ofString quotes source).Follows before stream) (h : stream.Makes pull) :
    pull.Lawful quotes source before := by
  obtain ⟨hsource, hoffset, hquotes⟩ := toList_eq_of_follows hbefore
  have htakes := h.takes
  rw [hoffset, hquotes, ← byteLength_append] at htakes
  have hcut : source.toList = (taken before ++ pull.gap) ++ (pull.piece ++ pull.left.rest) := by
    rw [hsource, h.rest, List.append_assoc]
  have hstop : pull.left.offset =
      byteLength (taken before ++ pull.gap) + byteLength pull.piece := by
    rw [h.offset, hoffset, byteLength_append]
  refine {
    gap := h.gap
    takes := htakes
    position := ?position
    forward := ⟨?le, fun hend => ?lt⟩
    slice := fun token htoken => ?slice
    content := fun token htoken hkind => ?content }
  case position =>
    rw [hcut, hstop, ← List.append_assoc, ← List.append_assoc, ← byteLength_append]
    exact splitBytes_append _ _
  case le =>
    rw [hstop, byteLength_append]
    omega
  case lt =>
    have hpiece : 0 < byteLength pull.piece := by
      cases hpull : pull.piece with
      | nil => simp [h.isEnd_iff.2 hpull] at hend
      | cons c cs =>
        have hc := c.utf8Size_pos
        rw [byteLength_cons]
        omega
    rw [hstop, byteLength_append]
    omega
  case slice =>
    rw [htoken] at htakes
    rw [Span.slice?, htakes.span, hcut]
    exact sliceBytes_append _ _ _
  case content =>
    rw [htoken] at htakes
    have hlexeme := htakes.isLexeme (by simp [hkind])
    rw [hkind] at hlexeme
    obtain ⟨quote, hquote, hpiece⟩ := exists_content hlexeme
    refine ⟨quote, hquote, ?_, ?_⟩
    · rw [hstop, hpiece, byteLength_cons]
      omega
    · rw [htakes.span, hstop, hcut, hpiece]
      exact sliceBytes_between _ _ _ _

/-- At the end of the text there is nothing but the end marker. -/
theorem answer_of_rest_eq_nil {stream left : TokenStream} {pulls : List Pull}
    (h : stream.Follows pulls left) (hrest : stream.rest = []) :
    ∀ pull ∈ pulls, pull.answer = .ok (.eof stream.offset) := by
  induction pulls generalizing stream with
  | nil => simp
  | cons pull pulls ih =>
    obtain ⟨hmakes, hpulls⟩ := h
    have hcut := hmakes.rest
    rw [hrest, eq_comm, List.append_eq_nil_iff, List.append_eq_nil_iff] at hcut
    obtain ⟨hgap, hpiece, hleft⟩ := hcut
    have hoffset : pull.left.offset = stream.offset := by
      rw [hmakes.offset, hgap, hpiece]
      rfl
    obtain ⟨hanswer, -⟩ := hmakes.answer_of_isEnd (hmakes.isEnd_iff.2 hpiece)
    rw [hoffset] at hanswer
    refine List.forall_mem_cons.2 ⟨hanswer, ?_⟩
    rw [← hoffset]
    exact ih hpulls hleft

/-- Each pull before the end takes a character at least. -/
theorem length_le_length_taken {stream left : TokenStream} {pulls : List Pull}
    (h : stream.Follows pulls left) (hend : ∀ pull ∈ pulls, pull.isEnd = false) :
    pulls.length ≤ (taken pulls).length := by
  induction pulls generalizing stream with
  | nil => simp
  | cons pull pulls ih =>
    obtain ⟨hpull, hpulls⟩ := List.forall_mem_cons.1 hend
    have hle := ih h.2 hpulls
    have hpiece : 0 < pull.piece.length := by
      rw [List.length_pos_iff]
      intro hnil
      rw [h.1.isEnd_iff.2 hnil] at hpull
      cases hpull
    rw [taken_cons, List.length_cons, List.length_append, List.length_append]
    omega

/-! ### Logs -/

theorem history_append (log more : List Entry) :
    history (log ++ more) = history log ++ history more := List.flatMap_append

/-- The history of a session can be cut between any two pulls. -/
theorem TokenStream.Logs.exists_follows_history {stream : TokenStream} {log : List Entry}
    {before after : List Pull} (h : stream.Logs log) (hhistory : history log = before ++ after) :
    ∃ middle left, stream.Follows before middle ∧ middle.Follows after left := by
  rw [← List.append_nil log] at h
  obtain ⟨left, hfollows, -⟩ := h.exists_follows
  rw [hhistory] at hfollows
  obtain ⟨middle, hbefore, hafter⟩ := TokenStream.follows_append_iff.1 hfollows
  exact ⟨middle, left, hbefore, hafter⟩

theorem exhausted_iff_of_follows {stream : TokenStream} {pulls : List Pull}
    (h : (ofString quotes source).Follows pulls stream) :
    stream.exhausted = true ↔ ∃ pull ∈ pulls, pull.closes = true := by
  rw [h.exhausted, ← List.any_eq_true]
  rfl

/-- An iteration yields nothing just if it has ended. -/
theorem yielded_none_iff {stream left : TokenStream} {answer : Answer}
    (h : stream.perform .next = (answer, left)) :
    answer = .yielded none ↔ stream.exhausted = true := by
  rw [← TokenStream.next?_eq_none_iff]
  rw [TokenStream.perform] at h
  split at h
  · rename_i hnext
    obtain ⟨rfl, -⟩ := Prod.mk.inj h
    simp [hnext]
  · rename_i item left' hnext
    obtain ⟨rfl, -⟩ := Prod.mk.inj h
    simp [hnext]

/-- All items are collected up to the one with which the iteration ends. -/
theorem eq_nil_iff_exhausted {stream middle left : TokenStream} {front back : List Pull}
    {answer : Answer} (h : stream.perform .items = (answer, left))
    (hreports : Reports .items (front ++ back) answer) (hfront : stream.Follows front middle)
    (hback : middle.Follows back left) : back = [] ↔ middle.exhausted = true := by
  cases back with
  | nil =>
    obtain rfl : left = middle := hback
    obtain ⟨-, rfl⟩ := Prod.mk.inj h
    simpa using stream.exhausted_items
  | cons pull back =>
    cases hreports with
    | items hiterating =>
      have hopen := hback.1.exhausted_eq_false (hiterating pull (by simp))
      simp [hopen]

theorem lawfulLog_of_logs {log : List Entry} (h : (ofString quotes source).Logs log) :
    LawfulLog quotes source log where
  position := by
    rintro before entry after rfl
    obtain ⟨middle, hbefore, -, hentry, -, -⟩ := h.exists_follows
    have hfollows := TokenStream.follows_append_iff.2 ⟨middle, hbefore, hentry⟩
    rw [splitBytes_of_follows hfollows, history_append]
    simp [history]
  pull := by
    intro before pull after hhistory
    obtain ⟨middle, left, hbefore, hmakes, -⟩ := h.exists_follows_history hhistory
    exact lawful_of_makes hbefore hmakes
  bounded := by
    intro before after hhistory hlength
    obtain ⟨middle, left, hbefore, -⟩ := h.exists_follows_history hhistory
    by_contra hnone
    have hend : ∀ pull ∈ before, pull.isEnd = false := by simpa using hnone
    have hle := length_le_length_taken hbefore hend
    rw [← String.length_toList, (toList_eq_of_follows hbefore).1, List.length_append] at hlength
    omega
  ended := by
    intro before pull after hhistory hend
    obtain ⟨middle, left, hbefore, hmakes, hafter⟩ := h.exists_follows_history hhistory
    obtain ⟨hanswer, hrest⟩ := hmakes.answer_of_isEnd hend
    have hoffset : pull.left.offset = source.utf8ByteSize := by
      have hposition := (lawful_of_makes hbefore hmakes).position
      rw [hrest] at hposition
      obtain ⟨hsource, hlength⟩ := append_of_splitBytes hposition
      rw [← byteLength_toList, hsource, List.append_nil, hlength]
    rw [← hoffset]
    exact ⟨hanswer, answer_of_rest_eq_nil hafter hrest⟩
  next := by
    rintro before entry after rfl hcall
    obtain ⟨middle, hbefore, hperform, -, -, -⟩ := h.exists_follows
    rw [hcall] at hperform
    rw [yielded_none_iff hperform, exhausted_iff_of_follows hbefore]
  items := by
    rintro before entry after rfl hcall front back hpulls
    obtain ⟨middle, hbefore, hperform, hentry, hreports, -⟩ := h.exists_follows
    rw [hcall] at hperform hreports
    rw [hpulls] at hentry hreports
    obtain ⟨reached, hfront, hback⟩ := TokenStream.follows_append_iff.1 hentry
    have hfollows := TokenStream.follows_append_iff.2 ⟨middle, hbefore, hfront⟩
    rw [eq_nil_iff_exhausted hperform hreports hfront hback, exhausted_iff_of_follows hfollows]

end

/-- Any session on any source comes down to pulls that cut the source, as far as they go, into gaps
and pieces; the end, once reached, is never left, and an iteration ends there or after an error. -/
theorem exists_lawfulLog (quotes : QuoteStyle) (source : String) (calls : List Call) :
    ∃ log : List Entry, (TokenStream.ofString quotes source).Logs log ∧
      log.map Entry.call = calls ∧
      log.map (fun entry => (entry.answer, entry.left)) =
        (TokenStream.ofString quotes source).run calls ∧
      LawfulLog quotes source log := by
  obtain ⟨log, hlogs, hcalls, hrun⟩ := (TokenStream.ofString quotes source).exists_logs calls
  exact ⟨log, hlogs, hcalls, hrun, lawfulLog_of_logs hlogs⟩

/-- After an error an iteration is over, while tokens can still be asked for. -/
example : ((TokenStream.ofString .both "#a").run [.next, .next, .pull, .items]).map Prod.fst =
    [.yielded (some (.error (.unexpectedCharacter '#' 0))), .yielded none,
      .pulled (.ok ⟨.identifier, "a", ⟨1, 2⟩⟩), .collected []] := by
  decide +kernel

end SelectLang
