import SelectLang.Text.Ranges

/-!
# Blank characters

The characters with the Unicode property White_Space: they separate the pieces of a statement, and
are what trimming takes off a text.  The newline is one of them (`isBlank_newline`).

A batch of statements is a text with one statement on each line: the statements are its lines,
trimmed, less those that hold blanks alone (`entries`).
-/

namespace SelectLang.Text

/-- The ranges of White_Space, 25 characters in all. -/
def blankRanges : List Range :=
  [(0x9, 0xD), (0x20, 0x20), (0x85, 0x85), (0xA0, 0xA0), (0x1680, 0x1680), (0x2000, 0x200A),
   (0x2028, 0x2029), (0x202F, 0x202F), (0x205F, 0x205F), (0x3000, 0x3000)]

/-- The character separates pieces of a statement and is none itself. -/
def isBlank (c : Char) : Bool := inRanges c.toNat blankRanges

theorem ascending_blankRanges : Ascending blankRanges := by decide

theorem isBlank_space : isBlank ' ' = true := by decide

theorem isBlank_newline : isBlank '\n' = true := by decide

/-! ## Trimming -/

/-- The text without the blanks at its front. -/
def trimFront (cs : List Char) : List Char := cs.dropWhile isBlank

/-- The text without the blanks at its end. -/
def trimBack (cs : List Char) : List Char := (cs.reverse.dropWhile isBlank).reverse

/-- The text without the blanks at either end. -/
def trim (cs : List Char) : List Char := trimBack (trimFront cs)

/-! ## Lines -/

/-- The line without a carriage return at its end. -/
def dropReturn (line : List Char) : List Char :=
  if line.getLast? = some '\r' then line.dropLast else line

/-- The lines of a text.  A line ends at a newline, or at a carriage return and a newline.  What
stands behind the last newline is a line as well, as it is, if it is anything. -/
def lines (cs : List Char) : List (List Char) :=
  let pieces := cs.splitOn '\n'
  pieces.dropLast.map dropReturn ++ pieces.getLast?.toList.filter (· ≠ [])

/-- The trimmed lines of a text, less those that hold blanks alone. -/
def entries (cs : List Char) : List (List Char) := ((lines cs).map trim).filter (· ≠ [])

end SelectLang.Text
