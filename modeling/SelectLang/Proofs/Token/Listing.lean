import Mathlib.Data.List.DropRight
import SelectLang.Proofs.Lexical.Scan
import SelectLang.Proofs.Text.Entries
import SelectLang.CommandLine.Outcome

/-!
# Reading a listing of tokens

A line of a listing shows the text of a token between single quotes, as it is.  The text may hold
quotes and all else that the line is made of, so the line is not read from the left to the right but
from both ends: up to the first space stands the name of the kind, behind the last character that is
no digit stands the position, and what is left in the middle is the text (`readLine?_line`).  Where
no text holds a newline, the listing has one line for each token, and is read line by line
(`readListing_listing`).
-/

namespace SelectLang

open Text

/-! ## Names of kinds -/

/-- Every kind of token. -/
def Kind.all : List Kind :=
  Keyword.all.map .keyword ++ [.identifier, .number, .string, .comma, .semicolon, .star] ++
    [Comparator.eq, .ne, .lt, .le, .gt, .ge].map .comparator ++ [.eof]

/-- The kind that has a name. -/
def Kind.ofName? (name : List Char) : Option Kind := Kind.all.find? (·.name.toList = name)

theorem Kind.ofName?_name (kind : Kind) : Kind.ofName? kind.name.toList = some kind := by
  rcases kind with (_ | _) | _ | _ | _ | _ | _ | _ | (_ | _) | _ <;> decide

/-! ## Lines -/

/-- What a line of a listing shows. -/
structure Listed where
  kind : Kind
  text : String
  position : Nat
  deriving DecidableEq, Repr

namespace Token

/-- What a listing shows of the token. -/
def listed (token : Token) : Listed := ⟨token.kind, token.text, token.position⟩

/-- The line of the token without the newline. -/
def line (token : Token) : String :=
  token.kind.name ++ " '" ++ token.text ++ "' @" ++ token.position.repr

theorem toList_line (token : Token) :
    token.line.toList = token.kind.name.toList ++ ' ' :: '\'' ::
      (token.text.toList ++ '\'' :: ' ' :: '@' :: token.position.repr.toList) := by
  simp [line]

theorem listing_eq_join (ts : List Token) :
    listing ts = String.join ((ts.map line).map (· ++ "\n")) := by
  rw [List.map_map]
  rfl

end Token

/-- Reads a line from both ends: a name in front of the first space, digits at the end, and between
them the text, with two characters before it and three behind it. -/
def readLine? (line : List Char) : Option Listed :=
  let name := line.takeWhile (· ≠ ' ')
  let digits := line.rtakeWhile Char.isDigit
  let rest := line.length - (name.length + 2 + (3 + digits.length))
  (Kind.ofName? name).map fun kind =>
    ⟨kind, String.ofList ((line.drop (name.length + 2)).take rest), Nat.ofDigitChars 10 digits 0⟩

theorem ne_space_of_mem_name {kind : Kind} {c : Char} (h : c ∈ kind.name.toList) : c ≠ ' ' := by
  rintro rfl
  exact absurd (Kind.isUpper_of_mem_name h) (by decide)

/-- The name ends at the first space, whatever the text is. -/
theorem takeWhile_line (token : Token) :
    token.line.toList.takeWhile (· ≠ ' ') = token.kind.name.toList := by
  rw [token.toList_line]
  apply takeWhile_append_of_head
  · intro c hc
    simpa using ne_space_of_mem_name hc
  · simp

/-- The position begins behind the last character that is no digit, whatever the text is. -/
theorem rtakeWhile_line (token : Token) :
    token.line.toList.rtakeWhile Char.isDigit = token.position.repr.toList := by
  have hreverse : token.line.toList.reverse = token.position.repr.toList.reverse ++
      '@' :: (token.kind.name ++ " '" ++ token.text ++ "' ").toList.reverse := by
    simp [Token.line]
  rw [List.rtakeWhile, hreverse, takeWhile_append_of_head _ (by simp), List.reverse_reverse]
  intro c hc
  exact isDigit_of_mem_repr (List.mem_reverse.1 hc)

/-- A line shows kind, text and position of its token. -/
theorem readLine?_line (token : Token) : readLine? token.line.toList = some token.listed := by
  have hlength : token.line.toList.length = token.kind.name.toList.length + 2 +
      (token.text.toList.length + (3 + token.position.repr.toList.length)) := by
    rw [token.toList_line]
    simp only [List.length_append, List.length_cons]
    omega
  have hmiddle : token.line.toList.drop (token.kind.name.toList.length + 2) =
      token.text.toList ++ '\'' :: ' ' :: '@' :: token.position.repr.toList := by
    rw [token.toList_line, List.drop_append]
    simp
  have htext : token.line.toList.length - (token.kind.name.toList.length + 2 +
      (3 + token.position.repr.toList.length)) = token.text.toList.length := by
    omega
  unfold readLine?
  simp only [takeWhile_line, rtakeWhile_line, Kind.ofName?_name, hmiddle, htext, List.take_left]
  rw [Nat.toList_repr, Nat.ofDigitChars_ten_toDigits, String.ofList_toList]
  rfl

/-! ## Listings -/

/-- Reads a listing line by line. -/
def readListing (text : String) : Option (List Listed) :=
  (text.toList.splitOn '\n').dropLast.mapM readLine?

theorem newline_notMem_line {token : Token} (h : '\n' ∉ token.text.toList) :
    '\n' ∉ token.line.toList := by
  have hname : '\n' ∉ token.kind.name.toList := fun hc =>
    absurd (Kind.isUpper_of_mem_name hc) (by decide)
  have hposition : '\n' ∉ token.position.repr.toList := fun hc =>
    absurd (isDigit_of_mem_repr hc) (by decide)
  rw [token.toList_line]
  simp only [List.mem_append, List.mem_cons, not_or]
  exact ⟨hname, by decide, by decide, h, by decide, by decide, by decide, hposition⟩

variable {ts us : List Token}

/-- There is one line for each token. -/
theorem splitOn_listing (h : ∀ token ∈ ts, '\n' ∉ token.text.toList) :
    (listing ts).toList.splitOn '\n' = ts.map (fun token => token.line.toList) ++ [[]] := by
  rw [Token.listing_eq_join, List.splitOn, splitOnP_join (by simp), List.map_map]
  · rfl
  · rw [List.forall_mem_map]
    intro token htoken c hc
    rw [beq_eq_false_iff_ne]
    rintro rfl
    exact newline_notMem_line (h token htoken) hc

theorem mapM_readLine? (ts : List Token) :
    (ts.map fun token => token.line.toList).mapM readLine? = some (ts.map Token.listed) := by
  induction ts with
  | nil => rfl
  | cons token ts ih => simp [List.mapM_cons, readLine?_line, ih]

theorem readListing_listing (h : ∀ token ∈ ts, '\n' ∉ token.text.toList) :
    readListing (listing ts) = some (ts.map Token.listed) := by
  rw [readListing, splitOn_listing h, List.dropLast_concat, mapM_readLine?]

/-- Where no text holds a newline, a listing has one line for each token, it can be read back, and
so two lists of tokens with one listing agree in the kind, the text and the position of each
token. -/
theorem listing_legible (hts : ∀ token ∈ ts, '\n' ∉ token.text.toList)
    (hus : ∀ token ∈ us, '\n' ∉ token.text.toList) :
    (listing ts).toList.splitOn '\n' = ts.map (fun token => token.line.toList) ++ [[]] ∧
      readListing (listing ts) = some (ts.map Token.listed) ∧
      (listing ts = listing us → ts.length = us.length ∧
        List.Forall₂ (fun t u => t.kind = u.kind ∧ t.text = u.text ∧ t.position = u.position)
          ts us) := by
  refine ⟨splitOn_listing hts, readListing_listing hts, fun heq => ?_⟩
  have hread := readListing_listing hts
  rw [heq, readListing_listing hus, Option.some.injEq] at hread
  have hlisted : List.Forall₂ (· = ·) (ts.map Token.listed) (us.map Token.listed) := by
    rw [hread]
    exact List.forall₂_refl _
  rw [List.forall₂_map_left_iff, List.forall₂_map_right_iff] at hlisted
  refine ⟨hlisted.length_eq, hlisted.imp fun t u h => ?_⟩
  simpa [Token.listed] using h

/-- A text may hold what looks like the end of a line and the beginning of the next. -/
theorem listing_legible_quote_in_text :
    let ts : List Token := [⟨.string, "a' @7 COMMA '", ⟨3, 12⟩⟩, ⟨.comma, "' @0", ⟨12, 13⟩⟩]
    let us : List Token := [⟨.string, "a' @7 COMMA '", ⟨3, 20⟩⟩, ⟨.comma, "' @0", ⟨12, 12⟩⟩]
    (∀ token ∈ ts, '\n' ∉ token.text.toList) ∧ (∀ token ∈ us, '\n' ∉ token.text.toList) ∧
      listing ts = "STRING 'a' @7 COMMA '' @3\nCOMMA '' @0' @12\n" ∧ listing ts = listing us ∧
      readListing (listing ts) =
        some [⟨.string, "a' @7 COMMA '", 3⟩, ⟨.comma, "' @0", 12⟩] ∧
      List.Forall₂ (fun t u => t.kind = u.kind ∧ t.text = u.text ∧ t.position = u.position)
        ts us := by
  intro ts us
  have hts : ∀ token ∈ ts, '\n' ∉ token.text.toList := by decide
  have hus : ∀ token ∈ us, '\n' ∉ token.text.toList := by decide
  have hlisting : listing ts = listing us := by decide +kernel
  obtain ⟨-, hread, hagree⟩ := listing_legible hts hus
  exact ⟨hts, hus, by decide +kernel, hlisting, hread, (hagree hlisting).2⟩

end SelectLang
