import SelectLang.Proofs.Json.Grammar

/-!
# Reading documents

A reader that turns a text into the value of which it is a document.  Each part takes what it needs
from the front of a text and returns the rest; the fuel bounds how deep values stand in values and
how many stand in one, and the length of the text is enough of it.

Every document is read to its value (`read?_of_isDocument`), so that it has no other.
-/

namespace SelectLang

namespace Json

open Text

/-! ## Parts of a document -/

/-- The text without the blanks at its front. -/
def skip (cs : List Char) : List Char := cs.dropWhile isGap

/-- The first character inside a string, and the rest. -/
def readCharacter : List Char → Option (Char × List Char)
  | '\\' :: 'u' :: a :: b :: d :: e :: rest => (ofDigits? a b d e).map (·, rest)
  | '\\' :: letter :: rest => (shortMeaning? letter).map (·, rest)
  | c :: rest => if c.toNat < 0x20 ∨ c = '"' ∨ c = '\\' then none else some (c, rest)
  | [] => none

/-- The characters of a string up to its closing quote, and the rest. -/
def readContent : Nat → List Char → Option (List Char × List Char)
  | 0, _ => none
  | _ + 1, '"' :: rest => some ([], rest)
  | fuel + 1, cs => do
      let (c, ds) ← readCharacter cs
      let (content, rest) ← readContent fuel ds
      some (c :: content, rest)

/-- One element or more, up to the closing bracket, and the rest. -/
def readItems {α : Type} (element : List Char → Option (α × List Char)) (close : Char) :
    Nat → List Char → Option (List α × List Char)
  | 0, _ => none
  | fuel + 1, cs => do
      let (a, ds) ← element cs
      match skip ds with
      | [] => none
      | c :: es =>
          if c = close then
            some ([a], es)
          else if c = ',' then do
            let (others, rest) ← readItems element close fuel (skip es)
            some (a :: others, rest)
          else
            none

/-- The elements behind an opening bracket, up to the closing one, and the rest. -/
def readBracketed {α : Type} (element : List Char → Option (α × List Char)) (close : Char)
    (fuel : Nat) (cs : List Char) : Option (List α × List Char) :=
  match skip cs with
  | [] => none
  | c :: rest => if c = close then some ([], rest) else readItems element close fuel (c :: rest)

/-- A field of an object, and the rest. -/
def readField (value : List Char → Option (Json × List Char)) (fuel : Nat) :
    List Char → Option ((String × Json) × List Char)
  | '"' :: cs => do
      let (key, ds) ← readContent fuel cs
      match skip ds with
      | ':' :: es => (value (skip es)).map fun (v, rest) => ((String.ofList key, v), rest)
      | _ => none
  | _ => none

/-- A value that is a word, and the rest. -/
def readLiteral (cs : List Char) : Option (Json × List Char) :=
  literals.findSome? fun (word, value) =>
    if word.toList.isPrefixOf cs then some (value, cs.drop word.toList.length) else none

/-- A value, and the rest. -/
def readValue : Nat → List Char → Option (Json × List Char)
  | 0, _ => none
  | fuel + 1, '"' :: cs =>
      (readContent fuel cs).map fun (content, rest) => (.string (String.ofList content), rest)
  | fuel + 1, '[' :: cs =>
      (readBracketed (readValue fuel) ']' fuel cs).map fun (items, rest) => (.array items, rest)
  | fuel + 1, '{' :: cs =>
      (readBracketed (readField (readValue fuel) fuel) '}' fuel cs).map fun (fields, rest) =>
        (.object fields, rest)
  | _ + 1, cs => readLiteral cs

/-- The value of which the text is a document. -/
def read? (text : String) : Option Json := do
  let (value, rest) ← readValue text.toList.length (skip text.toList)
  if skip rest = [] then some value else none

/-! ## Blanks -/

theorem length_le_of_gap {cs rest : List Char} (h : Gap cs rest) : rest.length ≤ cs.length := by
  obtain ⟨blanks, -, rfl⟩ := h
  simp

theorem skip_of_gap {cs rest : List Char} (h : Gap cs rest)
    (hrest : ∀ c ∈ rest.head?, isGap c = false) : skip cs = rest := by
  obtain ⟨blanks, hblanks, rfl⟩ := h
  rw [skip, List.dropWhile_append_of_pos hblanks]
  cases rest with
  | nil => rfl
  | cons c rest => exact List.dropWhile_cons_of_neg (by simp [hrest c rfl])

/-! ## Reading to the end of a part -/

variable {α : Type} {read : Nat → List Char → Option (α × List Char)}

/-- Enough fuel given, the part at the front of the text is read. -/
structure Reads (read : Nat → List Char → Option (α × List Char)) (cs : List Char) (a : α)
    (rest : List Char) : Prop where
  shorter : rest.length < cs.length
  eq_some : ∀ fuel, cs.length ≤ fuel → read fuel cs = some (a, rest)

/-- What is read is an element: it begins with neither a blank nor a closing bracket. -/
structure ReadsElement (read : Nat → List Char → Option (α × List Char)) (cs : List Char) (a : α)
    (rest : List Char) : Prop extends Reads read cs a rest where
  begins : ∃ c ds, cs = c :: ds ∧ isGap c = false ∧ c ≠ ']' ∧ c ≠ '}'

theorem ReadsElement.skip_eq {cs ds rest : List Char} {a : α} (h : ReadsElement read ds a rest)
    (hgap : Gap cs ds) : skip cs = ds := by
  obtain ⟨c, es, rfl, hc, -⟩ := h.begins
  exact skip_of_gap hgap (by simpa using hc)

/-! ## Strings -/

theorem readCharacter_of_characterAt {cs rest : List Char} {c : Char} (h : CharacterAt cs c rest) :
    readCharacter cs = some (c, rest) ∧ rest.length < cs.length ∧ cs.head? ≠ some '"' := by
  cases h with
  | plain hcontrol hquote hmark =>
    refine ⟨?_, by simp, by simpa using hquote⟩
    rw [readCharacter.eq_def]
    split <;> simp_all
  | @short letter _ _ h =>
    refine ⟨?_, by simp only [List.length_cons]; omega, by simp⟩
    have hletter : letter ≠ 'u' := by
      rintro rfl
      cases h
    simp [readCharacter, hletter, h]
  | number h =>
    refine ⟨?_, by simp only [List.length_cons]; omega, by simp⟩
    simp [readCharacter, h]

theorem reads_content {cs content rest : List Char} (h : ContentAt cs content rest) :
    Reads readContent cs content rest := by
  induction h with
  | close rest =>
    refine ⟨by simp, fun fuel hfuel => ?_⟩
    cases fuel with
    | zero => cases hfuel
    | succ fuel => rfl
  | @character cs ds content rest c hc _ ih =>
    obtain ⟨hread, hshorter, hopen⟩ := readCharacter_of_characterAt hc
    have hrest := ih.shorter
    refine ⟨by omega, fun fuel hfuel => ?_⟩
    cases fuel with
    | zero => omega
    | succ fuel =>
      have hcontent := ih.eq_some fuel (by omega)
      rw [readContent.eq_def]
      split <;> simp_all

/-! ## Arrays and objects -/

section

variable {Element : List Char → α → List Char → Prop} {close : Char}

/-- Items are read if each of them is. -/
theorem readItems_of_itemsAt
    (hread : ∀ {cs a rest}, Element cs a rest → ReadsElement read cs a rest)
    (hclose : close = ']' ∨ close = '}') {cs rest : List Char} {items : List α}
    (h : ItemsAt Element close cs items rest) :
    (∃ c ds, cs = c :: ds ∧ isGap c = false ∧ c ≠ close) ∧ rest.length < cs.length ∧
      ∀ fuel n, cs.length ≤ fuel → cs.length ≤ n →
        readItems (read n) close fuel cs = some (items, rest) := by
  have hgap : isGap close = false := by rcases hclose with rfl | rfl <;> rfl
  have hcomma : close ≠ ',' := by rcases hclose with rfl | rfl <;> decide
  have hbegins : ∀ {cs a rest}, Element cs a rest →
      ∃ c ds, cs = c :: ds ∧ isGap c = false ∧ c ≠ close := by
    intro cs a rest ha
    obtain ⟨c, ds, hcs, hc, hne, hne'⟩ := (hread ha).begins
    exact ⟨c, ds, hcs, hc, by rcases hclose with rfl | rfl <;> assumption⟩
  induction h with
  | @last cs ds rest a ha hend =>
    have hskip : skip ds = close :: rest := skip_of_gap hend (by simpa using hgap)
    have hds := length_le_of_gap hend
    have hcs := (hread ha).shorter
    rw [List.length_cons] at hds
    refine ⟨hbegins ha, by omega, fun fuel n hfuel hn => ?_⟩
    cases fuel with
    | zero => omega
    | succ fuel => simp [readItems, (hread ha).eq_some n hn, hskip]
  | @more cs ds es fs rest a others ha hnext hother _ ih =>
    obtain ⟨⟨c, gs, rfl, hc, -⟩, hshorter, hothers⟩ := ih
    have hskip : skip ds = ',' :: es := skip_of_gap hnext (by simp [isGap])
    have hskip' : skip es = c :: gs := skip_of_gap hother (by simpa using hc)
    have hds := length_le_of_gap hnext
    have hes := length_le_of_gap hother
    have hcs := (hread ha).shorter
    rw [List.length_cons] at hds
    refine ⟨hbegins ha, by omega, fun fuel n hfuel hn => ?_⟩
    cases fuel with
    | zero => omega
    | succ fuel =>
      simp [readItems, (hread ha).eq_some n hn, hskip, hskip', hcomma.symm,
        hothers fuel n (by omega) (by omega)]

theorem reads_bracketed (hread : ∀ {cs a rest}, Element cs a rest → ReadsElement read cs a rest)
    (hclose : close = ']' ∨ close = '}') {cs ds rest : List Char} {items : List α}
    (hgap : Gap cs ds) (h : ItemsAt Element close ds items rest) :
    Reads (fun fuel => readBracketed (read fuel) close fuel) cs items rest := by
  obtain ⟨⟨c, es, rfl, hc, hne⟩, hshorter, hitems⟩ := readItems_of_itemsAt hread hclose h
  have hskip : skip cs = c :: es := skip_of_gap hgap (by simpa using hc)
  have hds := length_le_of_gap hgap
  refine ⟨by omega, fun fuel hfuel => ?_⟩
  simp [readBracketed, hskip, hne, hitems fuel fuel (by omega) (by omega)]

theorem reads_bracketed_nil (hclose : isGap close = false) {cs rest : List Char}
    (h : Gap cs (close :: rest)) :
    Reads (fun fuel => readBracketed (read fuel) close fuel) cs [] rest := by
  have hskip : skip cs = close :: rest := skip_of_gap h (by simpa using hclose)
  have hds := length_le_of_gap h
  rw [List.length_cons] at hds
  exact ⟨by omega, fun fuel _ => by simp [readBracketed, hskip]⟩

end

theorem readsElement_field {cs rest : List Char} {field : String × Json}
    (h : FieldAt (ReadsElement readValue) cs field rest) :
    ReadsElement (fun fuel => readField (readValue fuel) fuel) cs field rest := by
  cases h with
  | @field cs ds es fs rest key value hkey hcolon hgap hvalue =>
    have hcs := (reads_content hkey).shorter
    have hds := length_le_of_gap hcolon
    have hes := length_le_of_gap hgap
    have hfs := hvalue.shorter
    rw [List.length_cons] at hds
    refine ⟨⟨by simp only [List.length_cons]; omega, fun fuel hfuel => ?_⟩, ⟨'"', cs, rfl, by decide⟩⟩
    rw [List.length_cons] at hfuel
    have hskip : skip ds = ':' :: es := skip_of_gap hcolon (by simp [isGap])
    simp [readField, (reads_content hkey).eq_some fuel (by omega), hskip, hvalue.skip_eq hgap,
      hvalue.eq_some fuel (by omega)]

/-! ## Values -/

theorem readsElement_literal {word : String} {value : Json} (h : (word, value) ∈ literals)
    (rest : List Char) : ReadsElement readValue (word.toList ++ rest) value rest := by
  simp only [literals, List.mem_cons, Prod.mk.injEq, List.not_mem_nil, or_false] at h
  refine ⟨⟨?_, fun fuel hfuel => ?_⟩, ?_⟩
  · rcases h with ⟨rfl, -⟩ | ⟨rfl, -⟩ | ⟨rfl, -⟩ <;>
      simp only [List.length_append, String.length_toList] <;> exact Nat.lt_add_of_pos_left (by decide)
  · cases fuel with
    | zero => rcases h with ⟨rfl, -⟩ | ⟨rfl, -⟩ | ⟨rfl, -⟩ <;> simp at hfuel
    | succ fuel =>
      rcases h with ⟨rfl, rfl⟩ | ⟨rfl, rfl⟩ | ⟨rfl, rfl⟩ <;>
        simp [readValue, readLiteral, literals]
  · rcases h with ⟨rfl, -⟩ | ⟨rfl, -⟩ | ⟨rfl, -⟩ <;> exact ⟨_, _, rfl, by decide⟩

/-- A value that shows its sort by its first character is read if the rest of it is. -/
theorem readsElement_cons {c : Char} {f : α → Json} {cs rest : List Char} {a : α}
    (hc : isGap c = false ∧ c ≠ ']' ∧ c ≠ '}')
    (hvalue : ∀ fuel, readValue (fuel + 1) (c :: cs) =
      (read fuel cs).map fun (a, rest) => (f a, rest))
    (h : Reads read cs a rest) : ReadsElement readValue (c :: cs) (f a) rest := by
  refine ⟨⟨?_, fun fuel hfuel => ?_⟩, ⟨c, cs, rfl, hc⟩⟩
  · rw [List.length_cons]
    exact Nat.lt_succ_of_lt h.shorter
  · cases fuel with
    | zero => cases hfuel
    | succ fuel =>
      rw [hvalue, h.eq_some fuel (Nat.le_of_succ_le_succ hfuel)]
      rfl

/-- What the grammar lets stand at the front of a text is read from it. -/
theorem readsElement_valueAt {cs rest : List Char} {value : Json} (h : ValueAt cs value rest) :
    ReadsElement readValue cs value rest := by
  refine ValueAt.induction (P := ReadsElement readValue) ?literal ?string ?emptyArray ?array
    ?emptyObject ?object h
  case literal =>
    intro _ _ h rest
    exact readsElement_literal h rest
  case string =>
    intro cs rest s h
    have hstring := readsElement_cons (c := '"') (f := fun content => .string (String.ofList content))
      (by decide) (fun _ => rfl) (reads_content h)
    rwa [String.ofList_toList] at hstring
  case emptyArray =>
    intro cs rest h
    exact readsElement_cons (by decide) (fun _ => rfl) (reads_bracketed_nil rfl h)
  case array =>
    intro cs ds rest items hgap h
    exact readsElement_cons (by decide) (fun _ => rfl) (reads_bracketed id (.inl rfl) hgap h)
  case emptyObject =>
    intro cs rest h
    exact readsElement_cons (by decide) (fun _ => rfl) (reads_bracketed_nil rfl h)
  case object =>
    intro cs ds rest fields hgap h
    exact readsElement_cons (by decide) (fun _ => rfl)
      (reads_bracketed readsElement_field (.inr rfl) hgap h)

/-- A document is read to its value. -/
theorem read?_of_isDocument {text : String} {value : Json} (h : IsDocument text value) :
    read? text = some value := by
  obtain ⟨cs, rest, hfront, hvalue, hend⟩ := h
  have hreads := readsElement_valueAt hvalue
  have hskip : skip rest = [] := skip_of_gap hend (by simp)
  simp [read?, hreads.skip_eq hfront, hreads.eq_some _ (length_le_of_gap hfront), hskip]

end Json

end SelectLang
