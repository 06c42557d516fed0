import TypedManifest.Text.Digits
import TypedManifest.Yaml.Character
import TypedManifest.Yaml.Node
import TypedManifest.Yaml.Value

/-!
# What a scalar of YAML means

A plain scalar without a tag is null, a boolean, a whole number, a floating-point number or, if it
is none of these, a text. Whole numbers are written in decimal, or in base 16, 8 or 2 after `0x`,
`0o` or `0b`; a decimal with a superfluous zero in front is a text. A whole number that does not fit
64 bits makes the document invalid, unless it does not fit 128 bits either: then a decimal one is a
floating-point number. A scalar that is quoted or a block is a text.

A tag may ask for one of these readings, whatever the style; then the text must fit.
-/

namespace TypedManifest.Yaml

/-- The word is one of the spellings of null. -/
def isNullWord (s : String) : Bool := s = "null" || s = "Null" || s = "NULL" || s = "~"

/-- Read a boolean. -/
def boolWord? (s : String) : Option Bool :=
  if s = "true" || s = "True" || s = "TRUE" then some true
  else if s = "false" || s = "False" || s = "FALSE" then some false
  else none

/-! ### Whole numbers -/

/-- The value of a digit in a base. -/
def digitIn? (base : Nat) (c : Char) : Option Nat := (hexValue? c).filter (· < base)

/-- Read digits of a base. -/
def digits? (base : Nat) (cs : List Char) : Option Nat :=
  if cs = [] then none else cs.foldlM (fun n c => (digitIn? base c).map (base * n + ·)) 0

/-- More than one digit, the first of them a zero. -/
def hasSuperfluousZero (cs : List Char) : Bool :=
  match cs with
  | '0' :: r => r ≠ [] && r.all Char.isDigit
  | _ => false

/-- Read a natural number without a sign. -/
def magnitude? (cs : List Char) : Option Nat :=
  match cs with
  | '0' :: 'x' :: r => digits? 16 r
  | '0' :: 'o' :: r => digits? 8 r
  | '0' :: 'b' :: r => digits? 2 r
  | r => if hasSuperfluousZero r then none else digits? 10 r

/-- The sign of a number: it has a minus, and what comes after the sign. -/
def signOf : List Char → Bool × List Char
  | '-' :: r => (true, r)
  | '+' :: r => (false, r)
  | r => (false, r)

/-- Read a whole number of any size. -/
def whole? (cs : List Char) : Option Int :=
  let (negative, r) := signOf cs
  (magnitude? r).map fun n => if negative then -(n : Int) else n

/-- A whole number of 64 bits. -/
def fits (n : Int) : Bool := Text.minInt ≤ n && n ≤ Text.maxWord

/-- A whole number of 128 bits. -/
def fitsTwice (n : Int) : Bool := -Int.pow 2 127 ≤ n && n < Int.pow 2 128

/-! ### Floating-point numbers -/

/-- Read the power of ten at the end of a number. -/
def powerOfTen? : List Char → Option Int
  | [] => some 0
  | c :: r => if c = 'e' || c = 'E' then Text.integer? r else none

/-- Read a decimal without a sign: digits with or without a point, and a power of ten. -/
def decimal? (negative : Bool) (cs : List Char) : Option Decimal.Binary64 :=
  let whole := cs.takeWhile Char.isDigit
  let (part, rest) := match cs.dropWhile Char.isDigit with
    | '.' :: r => (r.takeWhile Char.isDigit, r.dropWhile Char.isDigit)
    | r => ([], r)
  if whole ++ part = [] then none
  else (powerOfTen? rest).map fun e =>
    .ofDecimal negative (Nat.ofDigitChars 10 (whole ++ part) 0) (e - part.length)

/-- Read a floating-point number. A decimal beyond all finite numbers is none. -/
def float? (cs : List Char) : Option Decimal.Binary64 :=
  let (negative, r) := signOf cs
  if r = ".inf".toList || r = ".Inf".toList || r = ".INF".toList then some (.infinite negative)
  else if cs = ".nan".toList || cs = ".NaN".toList || cs = ".NAN".toList then some .nan
  else (decimal? negative r).filter (·.isFinite)

/-! ### Readings -/

/-- Read a whole number, if the text is one. One that is too large is a fault. -/
def wholeValue? (s : String) : Except Fault (Option Value) :=
  match whole? s.toList with
  | some n =>
    if fits n then .ok (some (.number (.int n)))
    else if fitsTwice n then .error (.scalar s)
    else .ok none
  | none => .ok none

/-- What a plain scalar without a tag means. -/
def plainValue (s : String) : Except Fault Value :=
  if s = "" || isNullWord s then .ok .null
  else match boolWord? s with
    | some b => .ok (.bool b)
    | none => do
      match ← wholeValue? s with
      | some v => return v
      | none =>
        if hasSuperfluousZero (signOf s.toList).2 then return .string s
        else match float? s.toList with
          | some x => return .number (.float x)
          | none => return .string s

/-- What a scalar without a tag means. -/
def bareValue (s : String) (style : ScalarStyle) : Except Fault Value :=
  if style = .plain then plainValue s else .ok (.string s)

/-- What a scalar means under a tag that is not the author's own. -/
def coreValue (tag : Tag) (s : String) : Except Fault Value :=
  if tag = Tag.core "bool" then
    match boolWord? s with
    | some b => .ok (.bool b)
    | none => .error (.scalar s)
  else if tag = Tag.core "int" then do
    match ← wholeValue? s with
    | some v => return v
    | none => throw (.scalar s)
  else if tag = Tag.core "float" then
    match float? s.toList with
    | some x => .ok (.number (.float x))
    | none => .error (.scalar s)
  else if tag = Tag.core "null" then
    if isNullWord s then .ok .null else .error (.scalar s)
  else .ok (.string s)

/-- What a scalar means. Under a tag of the author's own it means what it means without; a tag that
begins like one and is no text does not count. -/
def scalarValue (tag : Option Tag) (s : String) (style : ScalarStyle) : Except Fault Value :=
  match tag with
  | none => bareValue s style
  | some t =>
    match t.own? with
    | some name => (bareValue s style).map (.tagged name)
    | none => if t.isMarked then bareValue s style else coreValue t s

end TypedManifest.Yaml
