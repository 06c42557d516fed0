/-!
# The characters of YAML

A stream holds printable characters only. Five characters end a line (a carriage return followed by
a line feed ends one line, not two), the space and the tab separate within a line, and a few classes
of ASCII characters make up names, tags and numbers.
-/

namespace TypedManifest.Yaml

/-- A character that a stream may hold. -/
def isPrintable (c : Char) : Bool :=
  let n := c.toNat
  n == 0x09 || n == 0x0A || n == 0x0D || (0x20 ≤ n && n ≤ 0x7E) || n == 0x85 ||
    (0xA0 ≤ n && n ≤ 0xD7FF) || (0xE000 ≤ n && n ≤ 0xFFFD) || (0x10000 ≤ n && n ≤ 0x10FFFF)

/-- The mark of the byte order, which is passed over at the beginning of a line. -/
def byteOrderMark : Char := '\ufeff'

/-- A character that ends a line. -/
def isBreak (c : Char) : Bool :=
  c == '\n' || c == '\r' || c == '\x85' || c == '\u2028' || c == '\u2029'

/-- A space or a tab. -/
def isSpace (c : Char) : Bool := c == ' ' || c == '\t'

/-- A character that separates words or lines. -/
def isGap (c : Char) : Bool := isSpace c || isBreak c

/-- A character of a name: a letter or digit of ASCII, a dash or an underscore. -/
def isWord (c : Char) : Bool := c.isAlphanum || c == '-' || c == '_'

/-- The value of a hexadecimal digit. -/
def hexValue? (c : Char) : Option Nat :=
  if c.isDigit then some (c.toNat - '0'.toNat)
  else if 'a' ≤ c && c ≤ 'f' then some (c.toNat - 'a'.toNat + 10)
  else if 'A' ≤ c && c ≤ 'F' then some (c.toNat - 'A'.toNat + 10)
  else none

/-- The rest of the stream is empty or begins with a separator. -/
def atGap : List Char → Bool
  | [] => true
  | c :: _ => isGap c

/-- The character that an end of line becomes in a text. The ends of line of ASCII, and the one of
the C1 controls, become a line feed; the two of Unicode stay. -/
def normalBreak (c : Char) : Char :=
  if c == '\r' || c == '\x85' then '\n' else c

/-- The ends of line in a stretch of separators, as they become part of a text. -/
def breaksOf : List Char → List Char
  | [] => []
  | '\r' :: '\n' :: r => '\n' :: breaksOf r
  | c :: r => if isBreak c then normalBreak c :: breaksOf r else breaksOf r

/-- What a stretch of separators inside a flowing text becomes: itself, when it stays on the line; a
single space, when it goes to the next line; and the ends of line after the first one, when there
are empty lines between. The first end of line counts too if it is one of those that stay. -/
def foldGap (gap : List Char) : List Char :=
  match breaksOf gap with
  | [] => gap
  | ['\n'] => [' ']
  | '\n' :: more => more
  | breaks => breaks

/-- The column after a stretch of separators that reaches a new line. -/
def columnAfter (gap : List Char) : Nat := (gap.reverse.takeWhile (!isBreak ·)).length

/-- A marker of three characters that stands alone at the beginning of a line. -/
def isMarker (c : Char) : List Char → Bool
  | x :: y :: z :: r => x == c && y == c && z == c && atGap r
  | _ => false

/-- The marker of the beginning or of the end of a document. -/
def atMarker (cs : List Char) : Bool := isMarker '-' cs || isMarker '.' cs

/-- A place in a stream: how many bytes come before it, how many lines, and how many characters of
its own line. -/
structure Mark where
  /-- Bytes before. -/
  index : Nat := 0
  /-- Lines before. -/
  line : Nat := 0
  /-- Characters before on the same line. -/
  column : Nat := 0
  deriving DecidableEq, Repr

/-- The place after some characters. -/
def Mark.after (m : Mark) : List Char → Mark
  | [] => m
  | '\r' :: '\n' :: r => Mark.after ⟨m.index + 2, m.line + 1, 0⟩ r
  | c :: r =>
    if isBreak c then Mark.after ⟨m.index + c.utf8Size, m.line + 1, 0⟩ r
    else Mark.after ⟨m.index + c.utf8Size, m.line, m.column + 1⟩ r

end TypedManifest.Yaml
