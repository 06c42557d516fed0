import TypedManifest.Yaml.Character
import TypedManifest.Yaml.Token

/-!
# Names, tags and directives

What makes up a tag: a handle between exclamation marks, and characters of a URI, where bytes may be
written as percent signs and hexadecimal digits. A directive, at the beginning of a line, gives the
version of a document or the meaning of a handle.
-/

namespace TypedManifest.Yaml.Token

/-! ### Names -/

/-- A character that may follow a name. -/
def endsName : List Char → Bool
  | [] => true
  | c :: _ => isGap c || "?:,]\x7d%@\x60".toList.contains c

/-- Read the name of an anchor. -/
def readName (cs : List Char) : Except Fault (String × List Char) :=
  let name := cs.takeWhile isWord
  let rest := cs.dropWhile isWord
  if name ≠ [] && endsName rest then .ok (String.ofList name, rest)
  else .error (.token "a name that is empty or goes on")

/-! ### Tags -/

/-- A character of a URI. Within angle brackets and in directives a few more are allowed. -/
def isUri (bracketed : Bool) (c : Char) : Bool :=
  isWord c || ";/?:@&=+$.%!~*'()".toList.contains c || bracketed && ",[]".toList.contains c

/-- How many bytes are owed after the first byte of a character. -/
def owedAfter? (first : UInt8) : Option Nat :=
  if first < 0x80 then some 0
  else if first < 0xC0 then none
  else if first < 0xE0 then some 1
  else if first < 0xF0 then some 2
  else if first < 0xF8 then some 3
  else none

/-- How many bytes are owed after a byte, when some are owed before it. The bytes need not form a
character, but there have to be as many as the first one says. -/
def owedNext? (owed : Nat) (byte : UInt8) : Option Nat :=
  match owed with
  | 0 => owedAfter? byte
  | owed + 1 => if 0x80 ≤ byte && byte < 0xC0 then some owed else none

/-- The bytes of a text in which bytes may be written as percent signs and digits, when some bytes
are owed at its beginning. -/
def percentBytes (owed : Nat) : List Char → Except Fault (List UInt8)
  | [] => if owed = 0 then .ok [] else .error (.token "percent signs that stop short")
  | '%' :: a :: b :: r =>
    match hexValue? a, hexValue? b with
    | some x, some y =>
      let byte := UInt8.ofNat (16 * x + y)
      match owedNext? owed byte with
      | some owed => (percentBytes owed r).map (byte :: ·)
      | none => .error (.token "percent signs out of order")
    | _, _ => .error (.token "a percent sign without digits")
  | '%' :: _ => .error (.token "a percent sign without digits")
  | c :: r =>
    if owed = 0 then (percentBytes 0 r).map (String.utf8EncodeChar c ++ ·)
    else .error (.token "percent signs that stop short")

/-- Read the characters of a URI, which may be missing only if `optional`. What comes after a NUL
does not count. -/
def readUri (bracketed optional : Bool) (cs : List Char) : Except Fault (Tag × List Char) := do
  let uri := cs.takeWhile (isUri bracketed)
  if uri = [] && !optional then throw (.token "a tag without a name")
  let bytes ← percentBytes 0 uri
  return (Tag.beforeNul ⟨bytes⟩, cs.dropWhile (isUri bracketed))

/-- Read the handle of a tag: an exclamation mark, a word that may be empty, and, if it is there, a
second exclamation mark. -/
def readHandle : List Char → Except Fault (List Char × List Char)
  | '!' :: r =>
    let word := r.takeWhile isWord
    match r.dropWhile isWord with
    | '!' :: r' => .ok ('!' :: word ++ ['!'], r')
    | r' => .ok ('!' :: word, r')
  | _ => .error (.token "a handle without an exclamation mark")

/-- A handle with both of its exclamation marks. -/
def isClosed (handle : List Char) : Bool := 1 < handle.length && handle.getLast? = some '!'

/-- Read a tag. A tag in angle brackets has no handle; a tag with a single exclamation mark has it
as its handle, unless nothing follows. -/
def readTag (flow : Bool) (cs : List Char) : Except Fault (Token × List Char) := do
  let (token, r) ← match cs with
    | '!' :: '<' :: r => do
      let (uri, r) ← readUri true false r
      match r with
      | '>' :: r => pure (Token.tag "" uri, r)
      | _ => throw (.token "a tag without its closing bracket")
    | _ => do
      let (handle, r) ← readHandle cs
      if isClosed handle then
        let (suffix, r) ← readUri false false r
        pure (Token.tag (String.ofList handle) suffix, r)
      else
        let (more, r) ← readUri false true r
        let suffix := Tag.ofString (String.ofList (handle.drop 1)) ++ more
        pure (if suffix = .empty then Token.tag "" .lone else Token.tag "!" suffix, r)
  if atGap r || flow && r.head? = some ',' then return (token, r)
  else throw (.token "a tag that goes on")

/-! ### Directives -/

/-- Read one part of a version number. -/
def readVersionPart (cs : List Char) : Except Fault (Nat × List Char) :=
  let digits := cs.takeWhile Char.isDigit
  if digits = [] || 9 < digits.length then .error (.token "a version without a number")
  else .ok (Nat.ofDigitChars 10 digits 0, cs.dropWhile Char.isDigit)

/-- Read a directive after its percent sign, up to the rest of its line. -/
def readDirective (cs : List Char) : Except Fault (Token × List Char) := do
  let name := cs.takeWhile isWord
  let r := cs.dropWhile isWord
  if name = [] || !atGap r then throw (.token "a directive without a name")
  let r := r.dropWhile isSpace
  if name = "YAML".toList then
    let (major, r) ← readVersionPart r
    match r with
    | '.' :: r => do
      let (minor, r) ← readVersionPart r
      return (.version major minor, r)
    | _ => throw (.token "a version without a point")
  else if name = "TAG".toList then
    let (handle, r) ← readHandle r
    if handle ≠ ['!'] && !isClosed handle then throw (.token "a handle without its end")
    if !r.head?.any isSpace then throw (.token "a handle that goes on")
    let (meaning, r) ← readUri true false (r.dropWhile isSpace)
    if !atGap r then throw (.token "a meaning that goes on")
    return (.tagHandle (String.ofList handle) meaning, r)
  else throw (.token "an unknown directive")

end TypedManifest.Yaml.Token
