/-!
# Keywords

The eleven reserved words of the language.  A keyword is written in capitals, and read in any
mixture of cases: only ASCII letters have a case here, so no letter of another script can stand in
for one.
Main statement: `ofWord?_spelling`, a keyword's own spelling reads back as that keyword.
-/

namespace SelectLang

/-- A reserved word. -/
inductive Keyword where
  | select | from | where | and | or | group | by | having | order | asc | desc
  deriving DecidableEq, Repr

namespace Keyword

/-- How the keyword is written. -/
def spelling : Keyword → String
  | .select => "SELECT"
  | .from => "FROM"
  | .where => "WHERE"
  | .and => "AND"
  | .or => "OR"
  | .group => "GROUP"
  | .by => "BY"
  | .having => "HAVING"
  | .order => "ORDER"
  | .asc => "ASC"
  | .desc => "DESC"

/-- Every keyword, in the order in which a statement can use them. -/
def all : List Keyword :=
  [.select, .from, .where, .and, .or, .group, .by, .having, .order, .asc, .desc]

/-- The keyword that a word spells, the case of its ASCII letters aside. -/
def ofWord? (word : List Char) : Option Keyword :=
  all.find? fun k => k.spelling.toList == word.map Char.toUpper

theorem ofWord?_spelling (k : Keyword) : ofWord? k.spelling.toList = some k := by
  cases k <;> decide

/-- A word is a keyword exactly when it differs from the spelling at most in the case of ASCII
letters. -/
theorem ofWord?_eq_some_iff {word : List Char} {k : Keyword} :
    ofWord? word = some k ↔ k.spelling.toList = word.map Char.toUpper := by
  constructor
  · intro h
    simpa using List.find?_some h
  · intro h
    have hk : ofWord? word = ofWord? k.spelling.toList := by
      have hcaps : k.spelling.toList.map Char.toUpper = k.spelling.toList := by
        cases k <;> decide
      rw [ofWord?, ofWord?, hcaps, h]
    rw [hk, ofWord?_spelling]

end Keyword

end SelectLang
