import TypedManifest.Yaml.Token.Scalar
import TypedManifest.Yaml.Token.Tag

/-!
# From characters to tokens

The tokens of a stream are found from left to right. Two things need memory. *Indentation*: outside
brackets a collection begins where its first item stands further right than the enclosing one, and
ends where something stands further left; the columns of the open collections form a stack. *Simple
keys*: a key is known for what it is only at the colon that follows it, so the place of the last
node that could be a key is kept, one for each level of brackets, and the token for the key is put
there afterwards. A simple key stays on one line and spans at most 1024 bytes.

`Token.ofString` gives the tokens of a text. Each step of it takes at least one character.
-/

namespace TypedManifest.Yaml

/-- A place where a simple key may begin. -/
structure SimpleKey where
  /-- A node that begins here must be a key. -/
  required : Bool
  /-- How many tokens come before it. -/
  token : Nat
  /-- The place. -/
  mark : Mark

/-- The state between two tokens. -/
structure Lexer where
  /-- The characters left. -/
  rest : List Char
  /-- The place before them. -/
  mark : Mark := {}
  /-- The tokens found. -/
  tokens : Array Token := #[]
  /-- The columns of the open indented collections, the innermost first. -/
  indents : List Nat := []
  /-- The possible simple keys: of the innermost brackets first, and of none last. -/
  keys : List (Option SimpleKey) := [none]
  /-- A simple key may begin here. -/
  keyAllowed : Bool := true

namespace Lexer

/-- The lexer is within brackets. -/
def inFlow (s : Lexer) : Bool := 1 < s.keys.length

/-- The least column of what belongs to the innermost indented collection. -/
def contentIndent (s : Lexer) : Nat := s.indents.head?.elim 0 (· + 1)

/-- Go on to the given rest of the characters. -/
def goTo (s : Lexer) (rest : List Char) : Lexer :=
  { s with rest, mark := s.mark.after (s.rest.take (s.rest.length - rest.length)) }

/-- Append a token. -/
def emit (s : Lexer) (t : Token) : Lexer := { s with tokens := s.tokens.push t }

/-- Set whether a simple key may begin here. -/
def allowKey (s : Lexer) (allowed : Bool) : Lexer := { s with keyAllowed := allowed }

/-! ### Indentation -/

/-- End the indented collections that begin to the right of a column. Within brackets indentation
has no meaning. -/
def unroll (s : Lexer) (column : Nat) : Lexer :=
  if s.inFlow then s
  else
    let ended := s.indents.takeWhile (column < ·)
    { s with
      indents := s.indents.dropWhile (column < ·)
      tokens := s.tokens ++ (ended.map fun _ => Token.blockEnd).toArray }

/-- End all indented collections. -/
def unrollAll (s : Lexer) : Lexer :=
  if s.inFlow then s
  else { s with
    indents := []
    tokens := s.tokens ++ (s.indents.map fun _ => Token.blockEnd).toArray }

/-- Begin an indented collection at a column, unless one begins there already; its token is put
before token number `at`. -/
def roll (s : Lexer) (column position : Nat) (t : Token) : Lexer :=
  if s.inFlow || column < s.contentIndent then s
  else { s with
    indents := column :: s.indents
    tokens := s.tokens.insertIdxIfInBounds position t }

/-! ### Simple keys -/

/-- The greatest number of bytes that a simple key spans. -/
def maxKeySpan : Nat := 1024

/-- Give up a possible simple key, which is a fault if there must be a key. -/
def giveUp : Option SimpleKey → Except Fault (Option SimpleKey)
  | some k => if k.required then .error (.token "a key without its colon") else .ok none
  | none => .ok none

/-- Give up the simple keys that can no longer be completed. -/
def dropStale (s : Lexer) : Except Fault Lexer := do
  let keys ← s.keys.mapM fun key =>
    match key with
    | some k =>
      if k.mark.line < s.mark.line || k.mark.index + maxKeySpan < s.mark.index then giveUp key
      else pure key
    | none => pure none
  return { s with keys }

/-- Give up the simple key of the innermost brackets. -/
def removeKey (s : Lexer) : Except Fault Lexer := do
  match s.keys with
  | [] => return s
  | key :: outer => return { s with keys := (← giveUp key) :: outer }

/-- Take note that a simple key may begin here, if it may. -/
def saveKey (s : Lexer) : Except Fault Lexer := do
  if s.keyAllowed then
    let s ← s.removeKey
    let required := !s.inFlow && s.indents.head? == some s.mark.column
    return { s with keys := some ⟨required, s.tokens.size, s.mark⟩ :: s.keys.drop 1 }
  else return s

/-! ### Between tokens -/

/-- Skip separators and comments. Tabs separate within brackets, and elsewhere only where no key may
begin; outside brackets, a key may begin on every new line. -/
def skipGap (flow : Bool) (lineStart comment allowed : Bool) : List Char → List Char × Bool
  | [] => ([], allowed)
  | c :: r =>
    if isBreak c then skipGap flow true false (allowed || !flow) r
    else if comment then skipGap flow false true allowed r
    else if lineStart && c = byteOrderMark then skipGap flow false false allowed r
    else if c = ' ' || c = '\t' && (flow || !allowed) then skipGap flow false false allowed r
    else if c = '#' then skipGap flow false true allowed r
    else (c :: r, allowed)

/-- Go on to the next token. -/
def toToken (s : Lexer) : Except Fault Lexer := do
  let (rest, allowed) := skipGap s.inFlow (s.mark.column == 0) false s.keyAllowed s.rest
  let s ← { s.goTo rest with keyAllowed := allowed }.dropStale
  return s.unroll s.mark.column

/-! ### Tokens -/

/-- The indicator that takes up the next character. -/
def indicator (s : Lexer) (t : Token) : Lexer := (s.goTo (s.rest.drop 1)).emit t

/-- A marker of a document. -/
def marker (s : Lexer) (t : Token) : Except Fault Lexer := do
  let s ← s.unrollAll.removeKey
  return ((s.allowKey false).goTo (s.rest.drop 3)).emit t

/-- A directive. -/
def directive (s : Lexer) : Except Fault Lexer := do
  let s ← s.unrollAll.removeKey
  let (token, r) ← Token.readDirective (s.rest.drop 1)
  let r ← Token.skipLine r
  return ((s.allowKey false).goTo r).emit token

/-- An opening bracket. -/
def openBracket (s : Lexer) (t : Token) : Except Fault Lexer := do
  let s ← s.saveKey
  return { s with keys := none :: s.keys, keyAllowed := true }.indicator t

/-- A closing bracket. -/
def closeBracket (s : Lexer) (t : Token) : Except Fault Lexer := do
  let s ← s.removeKey
  let keys := if s.inFlow then s.keys.drop 1 else s.keys
  return { s with keys, keyAllowed := false }.indicator t

/-- A comma within brackets. -/
def comma (s : Lexer) : Except Fault Lexer := do
  let s ← s.removeKey
  return (s.allowKey true).indicator .flowEntry

/-- Begin an indented collection at the next character, if keys and items may begin there. -/
def beginBlock (s : Lexer) (t : Token) : Except Fault Lexer :=
  if s.inFlow then .ok s
  else if s.keyAllowed then .ok (s.roll s.mark.column s.tokens.size t)
  else .error (.token "an item or a key that may not begin here")

/-- The dash before an item. -/
def dash (s : Lexer) : Except Fault Lexer := do
  let s ← s.beginBlock .blockSequence
  let s ← s.removeKey
  return (s.allowKey true).indicator .blockEntry

/-- The question mark before a key. -/
def questionMark (s : Lexer) : Except Fault Lexer := do
  let s ← s.beginBlock .blockMapping
  let s ← s.removeKey
  return (s.allowKey (!s.inFlow)).indicator .key

/-- The colon before a value. What could be a simple key is one. -/
def colon (s : Lexer) : Except Fault Lexer := do
  match s.keys with
  | some k :: outer =>
    let s := { s with
      tokens := s.tokens.insertIdxIfInBounds k.token .key
      keys := none :: outer
      keyAllowed := false }
    return (s.roll k.mark.column k.token .blockMapping).indicator .value
  | _ =>
    let s ← s.beginBlock .blockMapping
    return (s.allowKey (!s.inFlow)).indicator .value

/-- A token of a node that may be a simple key. -/
def nodeToken (s : Lexer) (read : Lexer → Except Fault (Token × List Char)) :
    Except Fault Lexer := do
  let s ← s.saveKey
  let (token, r) ← read s
  return ((s.allowKey false).goTo r).emit token

/-- An alias or an anchor. -/
def name (make : String → Token) (s : Lexer) : Except Fault (Token × List Char) := do
  let (name, r) ← Token.readName (s.rest.drop 1)
  return (make name, r)

/-- A scalar in quotes. -/
def quoted (double : Bool) (s : Lexer) : Except Fault (Token × List Char) := do
  let r := s.rest.drop 1
  let reading ← if double then Token.readDouble false [] [] r else Token.readSingle [] [] r
  return (.scalar (String.ofList reading.text) .quoted, reading.rest)

/-- A block scalar. -/
def block (s : Lexer) (literal : Bool) : Except Fault Lexer := do
  let s ← s.removeKey
  let reading ← Token.readBlockScalar literal s.indents.head? (s.rest.drop 1)
  let style := if literal then ScalarStyle.literal else .folded
  return ((s.allowKey true).goTo reading.rest).emit
    (.scalar (String.ofList reading.text) style)

/-- A plain scalar. Where it reaches a new line, a key may begin. -/
def plain (s : Lexer) : Except Fault Lexer := do
  let s ← s.saveKey
  let reading ← Token.readPlain s.inFlow s.contentIndent [] [] s.rest
  return ((s.allowKey reading.newLine).goTo reading.rest).emit
    (.scalar (String.ofList reading.text) .plain)

/-- A character that begins no plain scalar. -/
def isIndicator (c : Char) : Bool := "-?:,[]\x7b\x7d#&*!|>'\"%@\x60".toList.contains c

/-- A plain scalar may begin with the character `c` before `r`. A dash, a question mark or a colon
begins one only if something follows it directly. -/
def beginsPlain (flow : Bool) (c : Char) (r : List Char) : Bool :=
  !(isGap c || isIndicator c) || c = '-' && !(r.head?.any isSpace) ||
    !flow && (c = '?' || c = ':') && !atGap r

/-- The next token, which begins with the character `c` before `r`. -/
def token (s : Lexer) (c : Char) (r : List Char) : Except Fault Lexer :=
  let lineStart := s.mark.column == 0
  let alone := s.inFlow || atGap r
  if lineStart && c = '%' then s.directive
  else if lineStart && isMarker '-' (c :: r) then s.marker .documentStart
  else if lineStart && isMarker '.' (c :: r) then s.marker .documentEnd
  else if c = '[' then s.openBracket .flowSequence
  else if c = '{' then s.openBracket .flowMapping
  else if c = ']' then s.closeBracket .flowSequenceEnd
  else if c = '}' then s.closeBracket .flowMappingEnd
  else if c = ',' then s.comma
  else if c = '-' && atGap r then s.dash
  else if c = '?' && alone then s.questionMark
  else if c = ':' && alone then s.colon
  else if c = '*' then s.nodeToken (name .alias)
  else if c = '&' then s.nodeToken (name .anchor)
  else if c = '!' then s.nodeToken fun s => Token.readTag s.inFlow s.rest
  else if c = '|' && !s.inFlow then s.block true
  else if c = '>' && !s.inFlow then s.block false
  else if c = '\'' then s.nodeToken (quoted false)
  else if c = '"' then s.nodeToken (quoted true)
  else if beginsPlain s.inFlow c r then s.plain
  else .error (.token "a character that begins no token")

/-- The end of the stream. -/
def finish (s : Lexer) : Except Fault (List Token) := do
  let s ← s.unrollAll.removeKey
  return (s.emit .streamEnd).tokens.toList

/-- All tokens of the characters left. -/
def run (s : Lexer) : Except Fault (List Token) :=
  match s.toToken with
  | .error e => .error e
  | .ok s' =>
    match s'.rest with
    | [] => s'.finish
    | c :: r =>
      match s'.token c r with
      | .error e => .error e
      | .ok s'' =>
        if s''.rest.length < s.rest.length then s''.run
        else .error (.token "a token without characters")
termination_by s.rest.length

end Lexer

/-- The tokens of a text. -/
def Token.ofString (text : String) : Except Fault (List Token) :=
  let cs := text.toList
  if cs.all isPrintable then Lexer.run { rest := cs } else .error .character

end TypedManifest.Yaml
