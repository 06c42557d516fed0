import TypedManifest.Json.Value

/-!
# JSON as text

Arrays and objects are laid out over several lines, each level indented by two more spaces; empty
ones stay on one line. In a text the quotation mark, the reverse solidus and the control characters
below U+0020 are escaped, by a letter where there is one; all else is written as it is.
-/

namespace TypedManifest.Json

/-- The digit of a base up to sixteen, in lower case. -/
def hexDigit (n : Nat) : Char := Nat.digitChar (n % 16)

/-- A character as it is written within quotation marks. -/
def escape (c : Char) : List Char :=
  match c with
  | '"' => ['\\', '"']
  | '\\' => ['\\', '\\']
  | '\x08' => ['\\', 'b']
  | '\x0c' => ['\\', 'f']
  | '\n' => ['\\', 'n']
  | '\r' => ['\\', 'r']
  | '\t' => ['\\', 't']
  | c =>
    if c.toNat < 0x20 then ['\\', 'u', '0', '0', hexDigit (c.toNat / 16), hexDigit c.toNat]
    else [c]

/-- A text within quotation marks. -/
def quoted (s : String) : String := "\"" ++ String.ofList (s.toList.flatMap escape) ++ "\""

/-- The beginning of a line at a depth. -/
def lineStart (depth : Nat) : String := "\n" ++ String.ofList (List.replicate (2 * depth) ' ')

/-- Parts within brackets, each on a line of its own. -/
def bracketed (opening closing : String) (depth : Nat) (parts : List String) : String :=
  if parts = [] then opening ++ closing
  else opening ++ ",".intercalate (parts.map (lineStart (depth + 1) ++ ·)) ++ lineStart depth
    ++ closing

mutual

/-- The text of a value that begins at a depth. -/
def textAt (depth : Nat) : Json → String
  | .bool b => if b then "true" else "false"
  | .string s => quoted s
  | .array items => bracketed "[" "]" depth (itemTexts (depth + 1) items)
  | .object members => bracketed "\x7b" "\x7d" depth (memberTexts (depth + 1) members)

/-- The texts of the items of an array. -/
def itemTexts (depth : Nat) : List Json → List String
  | [] => []
  | v :: vs => textAt depth v :: itemTexts depth vs

/-- The texts of the members of an object. -/
def memberTexts (depth : Nat) : List (String × Json) → List String
  | [] => []
  | (key, v) :: rest => (quoted key ++ ": " ++ textAt depth v) :: memberTexts depth rest

end

/-- The text of a value. -/
def text (v : Json) : String := v.textAt 0

end TypedManifest.Json
