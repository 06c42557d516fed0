/-!
# Blank characters and trimming

A character is *blank* when it has the Unicode property `White_Space`; there are twenty-five of
them, none of which is a letter, a digit or a mark of punctuation. All text that a person writes by
hand (a value, an item of a list, a setting) is read after its blank ends have been trimmed.

Text is worked on as a list of characters; the functions on `String` are the same functions seen
through `String.toList` and `String.ofList`.
-/

namespace TypedManifest.Text

/-- The ranges of code points with the property `White_Space`, both ends included. -/
def blankRanges : List (Nat × Nat) :=
  [(0x09, 0x0D), (0x20, 0x20), (0x85, 0x85), (0xA0, 0xA0), (0x1680, 0x1680), (0x2000, 0x200A),
    (0x2028, 0x2029), (0x202F, 0x202F), (0x205F, 0x205F), (0x3000, 0x3000)]

/-- A character with the property `White_Space`. -/
def isBlank (c : Char) : Bool :=
  blankRanges.any fun (lo, hi) => lo ≤ c.toNat && c.toNat ≤ hi

/-- The text without its blank beginning. -/
def trimStart (cs : List Char) : List Char := cs.dropWhile isBlank

/-- The text without its blank end. -/
def trimEnd (cs : List Char) : List Char := (cs.reverse.dropWhile isBlank).reverse

/-- The text without its blank ends. -/
def trim (cs : List Char) : List Char := trimEnd (trimStart cs)

/-- Nothing but blanks, or nothing at all. -/
def allBlank (cs : List Char) : Bool := cs.all isBlank

/-- `trim` on strings. -/
def trimmed (s : String) : String := String.ofList (trim s.toList)

/-- A string of blanks only, or the empty string. -/
def isBlankString (s : String) : Bool := allBlank s.toList

end TypedManifest.Text
