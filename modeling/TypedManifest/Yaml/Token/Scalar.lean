import TypedManifest.Yaml.Character
import TypedManifest.Yaml.Token

/-!
# The text of a scalar

Three ways of writing a text over several lines. In a *plain* scalar and within *quotes* the text
flows: a stretch of separators is a word space or, where empty lines are left, a break between
paragraphs. In a *block* the text keeps its lines, below a header that says how.

Each reader goes through the characters from left to right, with the text so far and the separators
since its last character, both in reverse, and gives the text together with the characters left.
-/

namespace TypedManifest.Yaml.Token

/-- A text that has been read, and what comes after it. -/
structure Reading where
  /-- The text. -/
  text : List Char
  /-- The characters left. -/
  rest : List Char
  /-- The reader went to a new line after the last character of the text. -/
  newLine : Bool := false

/-- The text so far, in reverse, with the separators after it folded. -/
def joined (text gap : List Char) : List Char := (foldGap gap.reverse).reverse ++ text

/-! ### Plain scalars -/

/-- A character that ends a plain scalar within brackets. -/
def isFlowIndicator (c : Char) : Bool :=
  c == ',' || c == '[' || c == ']' || c == '{' || c == '}'

/-- The rest of a stream begins with a character that may not follow a colon within brackets. -/
def atColonFault : List Char → Bool
  | d :: _ => isFlowIndicator d || d == '?'
  | [] => false

/-- A new line may not go on with a plain scalar here: it is not indented enough, or it is a marker
of a document. -/
def stopsLine (flow : Bool) (indent : Nat) (gap rest : List Char) : Bool :=
  gap.any isBreak &&
    let column := columnAfter gap.reverse
    (!flow && column < indent) || (column == 0 && atMarker rest)

/-- Read a plain scalar, whose lines are indented by at least `indent` outside brackets. -/
def readPlain (flow : Bool) (indent : Nat) : (text gap rest : List Char) → Except Fault Reading
  | text, gap, [] => .ok ⟨text.reverse, [], gap.any isBreak⟩
  | text, gap, c :: r =>
    if isGap c then
      if c = '\t' && gap.any isBreak && columnAfter gap.reverse < indent then
        .error (.token "a tab in the indentation of a plain scalar")
      else readPlain flow indent text (c :: gap) r
    else if gap ≠ [] && (stopsLine flow indent gap (c :: r) || c = '#') then
      .ok ⟨text.reverse, c :: r, gap.any isBreak⟩
    else if flow && c = ':' && atColonFault r then .error (.token "an unexpected colon")
    else if c = ':' && atGap r || flow && isFlowIndicator c then
      .ok ⟨text.reverse, c :: r, gap.any isBreak⟩
    else readPlain flow indent (c :: joined text gap) [] r

/-! ### Quoted scalars -/

/-- Within quotes, a marker of a document may not stand at the beginning of a line. -/
def markerFault (gap rest : List Char) : Bool :=
  gap.any isBreak && columnAfter gap.reverse == 0 && atMarker rest

/-- Read the rest of a text within single quotes. A quote in the text is written twice. -/
def readSingle : (text gap rest : List Char) → Except Fault Reading
  | _, _, [] => .error (.token "a quote without its end")
  | text, gap, c :: r =>
    if markerFault gap (c :: r) then .error (.token "a marker within quotes")
    else if isGap c then readSingle text (c :: gap) r
    else if c = '\'' then
      match r with
      | '\'' :: r' => readSingle ('\'' :: joined text gap) [] r'
      | _ => .ok { text := (joined text gap).reverse, rest := r }
    else readSingle (c :: joined text gap) [] r

/-- The character that a letter after a backslash stands for. -/
def escape? : Char → Option Char
  | '0' => some '\x00'
  | 'a' => some '\x07'
  | 'b' => some '\x08'
  | 't' => some '\t'
  | '\t' => some '\t'
  | 'n' => some '\n'
  | 'v' => some '\x0b'
  | 'f' => some '\x0c'
  | 'r' => some '\r'
  | 'e' => some '\x1b'
  | ' ' => some ' '
  | '"' => some '"'
  | '/' => some '/'
  | '\\' => some '\\'
  | 'N' => some '\x85'
  | '_' => some '\xa0'
  | 'L' => some '\u2028'
  | 'P' => some '\u2029'
  | _ => none

/-- How many hexadecimal digits follow a letter after a backslash. -/
def escapeWidth? : Char → Option Nat
  | 'x' => some 2
  | 'u' => some 4
  | 'U' => some 8
  | _ => none

/-- The character that hexadecimal digits stand for. -/
def hexChar? (digits : List Char) : Option Char := do
  let n ← digits.foldlM (fun n c => return 16 * n + (← hexValue? c)) 0
  if h : n.isValidChar then some (Char.ofNatAux n h) else none

/-- What the characters after a backslash within double quotes stand for, and how many of them there
are: a character, or nothing for an end of line. -/
def readEscape : List Char → Except Fault (Option Char × Nat)
  | [] => .error (.token "a backslash at the end")
  | '\r' :: '\n' :: _ => .ok (none, 2)
  | c :: r =>
    if isBreak c then .ok (none, 1)
    else match escape? c, escapeWidth? c with
      | some e, _ => .ok (some e, 1)
      | none, some width =>
        match if width ≤ r.length then hexChar? (r.take width) else none with
        | some e => .ok (some e, width + 1)
        | none => .error (.token "an escape that stands for no character")
      | none, none => .error (.token "an unknown escape")

/-- The separators after an end of line that a backslash takes away. They are only passed over, but
the ends of empty lines stay. -/
def keepBreaks (text gap : List Char) : List Char := (breaksOf gap.reverse).reverse ++ text

/-- Read the rest of a text within double quotes. After a backslash at the end of a line the
separators up to the next character, the `escaped` ones, are not folded. -/
def readDouble (escaped : Bool) (text gap : List Char) (rest : List Char) : Except Fault Reading :=
  let soFar := if escaped then keepBreaks text gap else joined text gap
  let fault := if escaped then columnAfter gap.reverse == 0 && atMarker rest
    else markerFault gap rest
  match rest with
  | [] => .error (.token "a quote without its end")
  | c :: r =>
    if fault then .error (.token "a marker within quotes")
    else if isGap c then readDouble escaped text (c :: gap) r
    else if c = '"' then .ok { text := soFar.reverse, rest := r }
    else if c = '\\' then
      match readEscape r with
      | .error e => .error e
      | .ok (some e, n) => readDouble false (e :: soFar) [] (r.drop n)
      | .ok (none, n) => readDouble true soFar [] (r.drop n)
    else readDouble false (c :: soFar) [] r
termination_by rest.length
decreasing_by all_goals simp [List.length_drop]; try omega

/-! ### Block scalars -/

/-- What becomes of the line ends at the end of a block. -/
inductive Chomping where
  /-- They are dropped. -/
  | strip
  /-- One of them stays. -/
  | clip
  /-- All of them stay. -/
  | keep
  deriving DecidableEq, Repr

/-- The first line of a block: what becomes of its end, and how much deeper it is indented than its
parent, where that is written. -/
structure BlockHeader where
  /-- What becomes of the line ends at the end. -/
  chomping : Chomping := .clip
  /-- The indentation relative to the parent. -/
  indent : Option Nat := none
  deriving DecidableEq, Repr

/-- Read a sign of chomping, if there is one. -/
def readChomping : List Char → Option Chomping × List Char
  | '+' :: r => (some .keep, r)
  | '-' :: r => (some .strip, r)
  | r => (none, r)

/-- Read a digit for the indentation, if there is one. -/
def readIndent : List Char → Except Fault (Option Nat × List Char)
  | c :: r =>
    if c = '0' then .error (.token "an indentation of zero")
    else if c.isDigit then .ok (some (c.toNat - '0'.toNat), r)
    else .ok (none, c :: r)
  | [] => .ok (none, [])

/-- Read the header of a block up to the end of its line: the sign and the digit, in either order.
-/
def readHeader (cs : List Char) : Except Fault (BlockHeader × List Char) := do
  let (sign, r) := readChomping cs
  let (indent, r) ← readIndent r
  let (sign, r) := match sign, indent with
    | none, some _ => readChomping r
    | _, _ => (sign, r)
  return ({ chomping := sign.getD .clip, indent }, r)

/-- Skip the rest of a line that may hold nothing but a comment, and the end of the line. -/
def skipLine (cs : List Char) : Except Fault (List Char) :=
  let r := cs.dropWhile isSpace
  let r := if r.head? = some '#' then r.dropWhile (!isBreak ·) else r
  match r with
  | [] => .ok []
  | '\r' :: '\n' :: r => .ok r
  | c :: r =>
    if isBreak c then .ok r else .error (.token "a line that goes on where it should end")

/-- The greatest indentation of the lines that come before the text of a block: of its empty lines,
and of its first line. -/
def leadingIndent (column widest : Nat) : List Char → Except Fault Nat
  | [] => .ok (max column widest)
  | c :: r =>
    if c = ' ' then leadingIndent (column + 1) widest r
    else if c = '\t' then .error (.token "a tab in the indentation of a block")
    else if isBreak c then leadingIndent 0 (max column widest) r
    else .ok (max column widest)

/-- The line ends between two lines of a folded block: a single one is a space, unless one of the
lines begins with a separator. -/
def foldBlock (folds : Bool) (first : List Char) (more : List Char) : List Char :=
  if folds && first == ['\n'] then (if more.isEmpty then [' '] else more) else first ++ more

/-- The state of reading a block. -/
structure Block where
  /-- The text so far, in reverse. -/
  text : List Char := []
  /-- The end of the last line of text. -/
  lineEnd : List Char := []
  /-- The ends of the empty lines since, in reverse. -/
  emptyLines : List Char := []
  /-- The last line of text began with a separator. -/
  spaced : Bool := false
  /-- The column, between lines; `none` within a line of text. -/
  column : Option Nat := some 0

/-- Begin a line of text with the character `c`. -/
def Block.startLine (literal : Bool) (b : Block) (c : Char) : Block :=
  let folds := !literal && !b.spaced && !isSpace c
  { text := c :: ((foldBlock folds b.lineEnd b.emptyLines.reverse).reverse ++ b.text)
    spaced := isSpace c
    column := none }

/-- End a line at the character `c`. -/
def Block.endLine (b : Block) (c : Char) : Block :=
  match b.column with
  | none => { b with lineEnd := [normalBreak c], column := some 0 }
  | some _ => { b with emptyLines := normalBreak c :: b.emptyLines, column := some 0 }

/-- The text of a block that has ended. -/
def Block.finish (chomping : Chomping) (b : Block) : List Char :=
  b.text.reverse ++
    match chomping with
    | .strip => []
    | .clip => b.lineEnd
    | .keep => b.lineEnd ++ b.emptyLines.reverse

/-- Read the lines of a block that are indented by `indent`. -/
def readBlock (literal : Bool) (chomping : Chomping) (indent : Nat) (b : Block) :
    List Char → Except Fault Reading
  | [] => .ok { text := b.finish chomping, rest := [] }
  | '\r' :: '\n' :: r => readBlock literal chomping indent (b.endLine '\n') r
  | c :: r =>
    if isBreak c then readBlock literal chomping indent (b.endLine c) r
    else match b.column with
      | none => readBlock literal chomping indent { b with text := c :: b.text } r
      | some column =>
        if column = indent then readBlock literal chomping indent (b.startLine literal c) r
        else if c = ' ' then
          readBlock literal chomping indent { b with column := some (column + 1) } r
        else if c = '\t' then .error (.token "a tab in the indentation of a block")
        else .ok { text := b.finish chomping, rest := c :: r }

/-- Read a block scalar, from the header on, inside a collection indented by `parent`. -/
def readBlockScalar (literal : Bool) (parent : Option Nat) (cs : List Char) :
    Except Fault Reading := do
  let (header, r) ← readHeader cs
  let r ← skipLine r
  let least := parent.elim 1 (max 1 <| · + 1)
  let indent ← match header.indent with
    | some n => pure (parent.getD 0 + n)
    | none => (max least ·) <$> leadingIndent 0 0 r
  readBlock literal header.chomping indent {} r

end TypedManifest.Yaml.Token
