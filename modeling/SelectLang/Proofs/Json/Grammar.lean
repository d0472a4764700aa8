import SelectLang.Json.Basic
import SelectLang.Proofs.Text.Quoted

/-!
# The grammar of JSON documents

What a JSON text of a value without numbers looks like, whoever wrote it: there may be blanks
between its parts, a character of a string may stand for itself or be escaped by a letter or by its
number, and an object keeps its fields in the order in which they stand.  (A number here names one
character; two that name one only together are left out.)  Each relation says of a text that
something stands at its front, and what the rest is.

The text that is written for a value is a document of it (`isDocument_render_append`).
-/

namespace SelectLang

namespace Json

open Text

/-! ## Blanks -/

/-- The character may stand between the parts of a document. -/
def isGap (c : Char) : Bool := c == ' ' || c == '\n' || c == '\r' || c == '\t'

/-- The text begins with blanks, or with none, and then comes the rest. -/
def Gap (cs rest : List Char) : Prop :=
  ∃ blanks : List Char, (∀ c ∈ blanks, isGap c = true) ∧ cs = blanks ++ rest

theorem gap_refl (cs : List Char) : Gap cs cs := ⟨[], by simp, rfl⟩

theorem gap_newLine (depth : Nat) (after : List Char) : Gap (newLine depth after) after := by
  refine ⟨'\n' :: List.replicate (2 * depth) ' ', ?_, rfl⟩
  intro c hc
  rcases List.mem_cons.1 hc with rfl | hc
  · rfl
  · rw [List.eq_of_mem_replicate hc]
    rfl

/-! ## Strings -/

/-- The character that a letter stands for behind a backslash. -/
def shortMeaning? : Char → Option Char
  | '"' => some '"'
  | '\\' => some '\\'
  | '/' => some '/'
  | 'b' => some '\x08'
  | 'f' => some '\x0C'
  | 'n' => some '\n'
  | 'r' => some '\r'
  | 't' => some '\t'
  | _ => none

/-- The character whose number is written with four digits. -/
def ofDigits? (a b d e : Char) : Option Char := do
  let n := 16 * (16 * (16 * (← hexDigit? a) + (← hexDigit? b)) + (← hexDigit? d)) + (← hexDigit? e)
  if n.isValidChar then some (Char.ofNat n) else none

/-- A character inside a string: it stands for itself, unless it is a control character, a quote or
a backslash, or it is escaped. -/
inductive CharacterAt : List Char → Char → List Char → Prop
  | plain {c : Char} {rest : List Char} (hcontrol : ¬ c.toNat < 0x20) (hquote : c ≠ '"')
      (hmark : c ≠ '\\') : CharacterAt (c :: rest) c rest
  | short {letter c : Char} {rest : List Char} (h : shortMeaning? letter = some c) :
      CharacterAt ('\\' :: letter :: rest) c rest
  | number {a b d e c : Char} {rest : List Char} (h : ofDigits? a b d e = some c) :
      CharacterAt ('\\' :: 'u' :: a :: b :: d :: e :: rest) c rest

/-- The characters of a string up to its closing quote. -/
inductive ContentAt : List Char → List Char → List Char → Prop
  | close (rest : List Char) : ContentAt ('"' :: rest) [] rest
  | character {cs ds content rest : List Char} {c : Char} (hc : CharacterAt cs c ds)
      (hrest : ContentAt ds content rest) : ContentAt cs (c :: content) rest

theorem shortMeaning?_of_shortEscape? {c letter : Char} (h : shortEscape? c = some letter) :
    shortMeaning? letter = some c := by
  unfold shortEscape? at h
  split at h <;> first | (obtain rfl := Option.some.inj h; rfl) | cases h

theorem characterAt_escape (c : Char) (rest : List Char) : CharacterAt (escape c ++ rest) c rest := by
  unfold escape
  split
  · rename_i letter hletter
    exact .short (shortMeaning?_of_shortEscape? hletter)
  · rename_i hnone
    by_cases hcontrol : c.toNat < 0x20
    · rw [if_pos hcontrol]
      apply CharacterAt.number
      have hall : ∀ n < 0x20, ofDigits? '0' '0' (n / 16).digitChar (n % 16).digitChar =
          some (Char.ofNat n) := by decide
      rw [hall c.toNat hcontrol, Char.ofNat_toNat]
    · rw [if_neg hcontrol]
      apply CharacterAt.plain hcontrol
      · rintro rfl
        cases hnone
      · rintro rfl
        cases hnone

theorem contentAt_escape (content rest : List Char) :
    ContentAt (content.flatMap escape ++ '"' :: rest) content rest := by
  induction content with
  | nil => exact .close rest
  | cons c content ih =>
    rw [List.flatMap_cons, List.append_assoc]
    exact .character (characterAt_escape c _) ih

/-! ## Arrays and objects -/

/-- One element or more, with a comma between each two, and the closing bracket. -/
inductive ItemsAt {α : Type} (Element : List Char → α → List Char → Prop) (close : Char) :
    List Char → List α → List Char → Prop
  | last {cs ds rest : List Char} {a : α} (ha : Element cs a ds) (hclose : Gap ds (close :: rest)) :
      ItemsAt Element close cs [a] rest
  | more {cs ds es fs rest : List Char} {a : α} {others : List α} (ha : Element cs a ds)
      (hcomma : Gap ds (',' :: es)) (hgap : Gap es fs)
      (hothers : ItemsAt Element close fs others rest) :
      ItemsAt Element close cs (a :: others) rest

/-- A field of an object: a name, a colon and a value. -/
inductive FieldAt (Value : List Char → Json → List Char → Prop) :
    List Char → String × Json → List Char → Prop
  | field {cs ds es fs rest : List Char} {key : String} {value : Json}
      (hkey : ContentAt cs key.toList ds) (hcolon : Gap ds (':' :: es)) (hgap : Gap es fs)
      (hvalue : Value fs value rest) : FieldAt Value ('"' :: cs) (key, value) rest

/-! ## Values -/

/-- The values that are words. -/
def literals : List (String × Json) :=
  [("null", .null), ("true", .bool true), ("false", .bool false)]

/-- A value. -/
inductive ValueAt : List Char → Json → List Char → Prop
  | literal {word : String} {value : Json} (h : (word, value) ∈ literals) (rest : List Char) :
      ValueAt (word.toList ++ rest) value rest
  | string {cs rest : List Char} {s : String} (h : ContentAt cs s.toList rest) :
      ValueAt ('"' :: cs) (.string s) rest
  | emptyArray {cs rest : List Char} (h : Gap cs (']' :: rest)) :
      ValueAt ('[' :: cs) (.array []) rest
  | array {cs ds rest : List Char} {items : List Json} (hgap : Gap cs ds)
      (h : ItemsAt ValueAt ']' ds items rest) : ValueAt ('[' :: cs) (.array items) rest
  | emptyObject {cs rest : List Char} (h : Gap cs ('}' :: rest)) :
      ValueAt ('{' :: cs) (.object []) rest
  | object {cs ds rest : List Char} {fields : List (String × Json)} (hgap : Gap cs ds)
      (h : ItemsAt (FieldAt ValueAt) '}' ds fields rest) : ValueAt ('{' :: cs) (.object fields) rest

/-- What holds of a value if it holds of its items or fields holds of every value in a text. -/
theorem ValueAt.induction {P : List Char → Json → List Char → Prop}
    (literal : ∀ {word : String} {value : Json}, (word, value) ∈ literals → ∀ rest : List Char,
      P (word.toList ++ rest) value rest)
    (string : ∀ {cs rest : List Char} {s : String}, ContentAt cs s.toList rest →
      P ('"' :: cs) (.string s) rest)
    (emptyArray : ∀ {cs rest : List Char}, Gap cs (']' :: rest) → P ('[' :: cs) (.array []) rest)
    (array : ∀ {cs ds rest : List Char} {items : List Json}, Gap cs ds → ItemsAt P ']' ds items rest →
      P ('[' :: cs) (.array items) rest)
    (emptyObject : ∀ {cs rest : List Char}, Gap cs ('}' :: rest) → P ('{' :: cs) (.object []) rest)
    (object : ∀ {cs ds rest : List Char} {fields : List (String × Json)}, Gap cs ds →
      ItemsAt (FieldAt P) '}' ds fields rest → P ('{' :: cs) (.object fields) rest)
    {cs rest : List Char} {value : Json} (h : ValueAt cs value rest) : P cs value rest :=
  @ValueAt.rec (fun cs value rest _ => P cs value rest)
    (fun cs items rest _ => ItemsAt P ']' cs items rest)
    (fun cs fields rest _ => ItemsAt (FieldAt P) '}' cs fields rest)
    (fun cs field rest _ => FieldAt P cs field rest)
    literal string emptyArray (fun hgap _ => array hgap) emptyObject (fun hgap _ => object hgap)
    (fun _ hclose ha => .last ha hclose)
    (fun _ hcomma hgap _ ha => .more ha hcomma hgap)
    (fun _ hclose ha => .last ha hclose)
    (fun _ hcomma hgap _ ha => .more ha hcomma hgap)
    (fun hkey hcolon hgap _ => .field hkey hcolon hgap)
    cs value rest h

/-! ## Written values -/

/-- What holds of a value if it holds of its items or fields holds of every value. -/
@[induction_eliminator]
theorem induction {P : Json → Prop} (null : P .null) (bool : ∀ b, P (.bool b))
    (string : ∀ s, P (.string s))
    (array : ∀ items : List Json, (∀ item ∈ items, P item) → P (.array items))
    (object : ∀ fields : List (String × Json), (∀ field ∈ fields, P field.2) → P (.object fields))
    (value : Json) : P value :=
  @Json.rec P (fun items => ∀ item ∈ items, P item) (fun fields => ∀ field ∈ fields, P field.2)
    (fun field => P field.2) null bool string array object
    (by simp) (fun _ _ hitem hitems => List.forall_mem_cons.2 ⟨hitem, hitems⟩)
    (by simp) (fun _ _ hfield hfields => List.forall_mem_cons.2 ⟨hfield, hfields⟩)
    (fun _ _ hvalue => hvalue) value

theorem itemsAt_writeItems {item : Json} {items : List Json}
    (h : ∀ value ∈ item :: items, ∀ depth after, ValueAt (value.write depth after) value after)
    (depth closing : Nat) (after : List Char) :
    ItemsAt ValueAt ']' (item.write depth (writeItems depth items (newLine closing (']' :: after))))
      (item :: items) after := by
  induction items generalizing item with
  | nil =>
    rw [writeItems]
    exact .last (h item (by simp) depth _) (gap_newLine closing _)
  | cons next items ih =>
    obtain ⟨hitem, hitems⟩ := List.forall_mem_cons.1 h
    rw [writeItems]
    exact .more (hitem depth _) (gap_refl _) (gap_newLine depth _) (ih hitems)

theorem fieldAt_label {value : Json} {depth : Nat} {after : List Char} (key : String)
    (h : ValueAt (value.write depth after) value after) :
    FieldAt ValueAt (label key (value.write depth after)) (key, value) after :=
  .field (contentAt_escape _ _) (gap_refl _) ⟨[' '], by simp [isGap], rfl⟩ h

theorem itemsAt_writeFields {key : String} {value : Json} {fields : List (String × Json)}
    (h : ∀ field ∈ (key, value) :: fields, ∀ depth after,
      ValueAt (field.2.write depth after) field.2 after)
    (depth closing : Nat) (after : List Char) :
    ItemsAt (FieldAt ValueAt) '}'
      (label key (value.write depth (writeFields depth fields (newLine closing ('}' :: after)))))
      ((key, value) :: fields) after := by
  induction fields generalizing key value with
  | nil =>
    rw [writeFields]
    exact .last (fieldAt_label key (h (key, value) (by simp) depth _)) (gap_newLine closing _)
  | cons field fields ih =>
    obtain ⟨hvalue, hfields⟩ := List.forall_mem_cons.1 h
    rw [writeFields]
    exact .more (fieldAt_label key (hvalue depth _)) (gap_refl _) (gap_newLine depth _) (ih hfields)

/-- At any depth and before any text, a written value is of the form of a value. -/
theorem valueAt_write (value : Json) :
    ∀ (depth : Nat) (after : List Char), ValueAt (value.write depth after) value after := by
  induction value with
  | null =>
    intro depth after
    rw [write]
    exact .literal (by simp [literals]) after
  | bool b =>
    intro depth after
    cases b <;> rw [write] <;> exact .literal (by simp [literals]) after
  | string s =>
    intro depth after
    rw [write]
    exact .string (contentAt_escape s.toList after)
  | array items h =>
    intro depth after
    cases items with
    | nil =>
      rw [write]
      exact .emptyArray (gap_refl _)
    | cons item items =>
      rw [write]
      exact .array (gap_newLine _ _) (itemsAt_writeItems h _ _ _)
  | object fields h =>
    intro depth after
    cases fields with
    | nil =>
      rw [write]
      exact .emptyObject (gap_refl _)
    | cons field fields =>
      rw [write]
      exact .object (gap_newLine _ _) (itemsAt_writeFields h _ _ _)

/-! ## Documents -/

theorem quote_append (s : String) (after more : List Char) :
    quote s after ++ more = quote s (after ++ more) := by simp [quote]

theorem newLine_append (depth : Nat) (after more : List Char) :
    newLine depth after ++ more = newLine depth (after ++ more) := by simp [newLine]

theorem label_append (key : String) (after more : List Char) :
    label key after ++ more = label key (after ++ more) := quote_append key _ more

theorem writeItems_append {items : List Json}
    (h : ∀ item ∈ items, ∀ (depth : Nat) (after more : List Char),
      item.write depth after ++ more = item.write depth (after ++ more))
    (depth : Nat) (after more : List Char) :
    writeItems depth items after ++ more = writeItems depth items (after ++ more) := by
  induction items with
  | nil => rw [writeItems, writeItems]
  | cons item items ih =>
    obtain ⟨hitem, hitems⟩ := List.forall_mem_cons.1 h
    rw [writeItems, writeItems, List.cons_append, newLine_append, hitem, ih hitems]

theorem writeFields_append {fields : List (String × Json)}
    (h : ∀ field ∈ fields, ∀ (depth : Nat) (after more : List Char),
      field.2.write depth after ++ more = field.2.write depth (after ++ more))
    (depth : Nat) (after more : List Char) :
    writeFields depth fields after ++ more = writeFields depth fields (after ++ more) := by
  induction fields with
  | nil => rw [writeFields, writeFields]
  | cons field fields ih =>
    obtain ⟨hvalue, hfields⟩ := List.forall_mem_cons.1 h
    rw [writeFields, writeFields, List.cons_append, newLine_append, label_append, hvalue,
      ih hfields]

/-- What comes after a value does not show in how the value is written. -/
theorem write_append (value : Json) : ∀ (depth : Nat) (after more : List Char),
    value.write depth after ++ more = value.write depth (after ++ more) := by
  induction value with
  | null => simp [write]
  | bool b => cases b <;> simp [write]
  | string s =>
    intro depth after more
    rw [write, write, quote_append]
  | array items h =>
    intro depth after more
    cases items with
    | nil => simp [write]
    | cons item items =>
      obtain ⟨hitem, hitems⟩ := List.forall_mem_cons.1 h
      simp only [write, List.cons_append, newLine_append, hitem, writeItems_append hitems]
  | object fields h =>
    intro depth after more
    cases fields with
    | nil => simp [write]
    | cons field fields =>
      obtain ⟨hvalue, hfields⟩ := List.forall_mem_cons.1 h
      simp only [write, List.cons_append, newLine_append, label_append, hvalue,
        writeFields_append hfields]

/-- The text is a document of the value, with blanks before and behind it or not. -/
def IsDocument (text : String) (value : Json) : Prop :=
  ∃ cs rest, Gap text.toList cs ∧ ValueAt cs value rest ∧ Gap rest []

/-- The text of a document is one, also with blanks behind it. -/
theorem isDocument_render_append (value : Json) {blanks : String}
    (h : ∀ c ∈ blanks.toList, isGap c = true) : IsDocument (value.render ++ blanks) value := by
  refine ⟨_, blanks.toList, gap_refl _, ?_, blanks.toList, h, (List.append_nil _).symm⟩
  rw [String.toList_append, render, String.toList_ofList, write_append]
  exact valueAt_write value 0 blanks.toList

end Json

end SelectLang
