/-!
# JSON documents

The values of JSON that a query needs, and their text: two blanks of indentation for each level, one
item or field on a line, `[]` and `{}` for the empty ones.  Fields keep their order.  Each function
writes a part in front of the text that comes after it.
-/

namespace SelectLang

/-- A JSON value without numbers. -/
inductive Json where
  | null
  | bool (b : Bool)
  | string (s : String)
  | array (items : List Json)
  | object (fields : List (String × Json))

namespace Json

/-! ## Strings -/

/-- The letter that stands for a character after a backslash. -/
def shortEscape? : Char → Option Char
  | '\x08' => some 'b'
  | '\x0C' => some 'f'
  | '\n' => some 'n'
  | '\r' => some 'r'
  | '\t' => some 't'
  | '"' => some '"'
  | '\\' => some '\\'
  | _ => none

/-- A code point below 256 as four digits in base sixteen. -/
def hexDigits (n : Nat) : List Char := ['0', '0', Nat.digitChar (n / 16), Nat.digitChar (n % 16)]

/-- The written form of one character inside a string. -/
def escape (c : Char) : List Char :=
  match shortEscape? c with
  | some letter => ['\\', letter]
  | none => if c.toNat < 0x20 then '\\' :: 'u' :: hexDigits c.toNat else [c]

/-- A string between double quotes, and what comes after it. -/
def quote (s : String) (after : List Char) : List Char :=
  '"' :: (s.toList.flatMap escape ++ '"' :: after)

/-! ## Values -/

/-- A new line at a depth, and what comes after it. -/
def newLine (depth : Nat) (after : List Char) : List Char :=
  '\n' :: (List.replicate (2 * depth) ' ' ++ after)

/-- The name of a field, and what comes after it. -/
def label (key : String) (after : List Char) : List Char := quote key (':' :: ' ' :: after)

mutual

/-- The text of a value whose last line stands at a depth, and what comes after it. -/
def write (depth : Nat) (value : Json) (after : List Char) : List Char :=
  match value with
  | .null => "null".toList ++ after
  | .bool true => "true".toList ++ after
  | .bool false => "false".toList ++ after
  | .string s => quote s after
  | .array [] => '[' :: ']' :: after
  | .array (item :: items) =>
      '[' :: newLine (depth + 1) (item.write (depth + 1)
        (writeItems (depth + 1) items (newLine depth (']' :: after))))
  | .object [] => '{' :: '}' :: after
  | .object ((key, value) :: fields) =>
      '{' :: newLine (depth + 1) (label key (value.write (depth + 1)
        (writeFields (depth + 1) fields (newLine depth ('}' :: after)))))

/-- The items after the first, each after a comma and on a line of its own. -/
def writeItems (depth : Nat) (items : List Json) (after : List Char) : List Char :=
  match items with
  | [] => after
  | item :: items => ',' :: newLine depth (item.write depth (writeItems depth items after))

/-- The fields after the first, each after a comma and on a line of its own. -/
def writeFields (depth : Nat) (fields : List (String × Json)) (after : List Char) : List Char :=
  match fields with
  | [] => after
  | (key, value) :: fields =>
      ',' :: newLine depth (label key (value.write depth (writeFields depth fields after)))

end

/-- The text of a document. -/
def render (document : Json) : String := String.ofList (document.write 0 [])

end Json

end SelectLang
