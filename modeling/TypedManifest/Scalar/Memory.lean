import TypedManifest.Scalar.Error
import TypedManifest.Text.Blank
import TypedManifest.Text.Digits

/-!
# Memory quantities

A memory quantity is a positive whole amount of megabytes or gigabytes, written as a natural number
and a unit of one or two letters in any case. The amount fits 64 bits, and so does its size in
megabytes, which stops at the largest 64-bit number.

Reading goes through the text from the left: the magnitude is the longest beginning made of digits,
points and signs, the unit is the rest, trimmed. A fault of the magnitude is reported before a fault
of the unit, except that an amount of zero is reported last.
-/

namespace TypedManifest.Scalar

/-- The unit of a memory quantity. -/
inductive MemoryUnit where
  /-- 2 ^ 20 bytes. -/
  | megabytes
  /-- 2 ^ 30 bytes. -/
  | gigabytes
  deriving DecidableEq, Repr

/-- An amount of memory. -/
structure Memory where
  /-- How many units. -/
  amount : Nat
  /-- The unit. -/
  unit : MemoryUnit
  deriving DecidableEq, Repr

namespace MemoryUnit

/-- The letter that a written quantity ends in. -/
def letter : MemoryUnit → String
  | megabytes => "M"
  | gigabytes => "G"

/-- The name of the unit. -/
def name : MemoryUnit → String
  | megabytes => "megabytes"
  | gigabytes => "gigabytes"

/-- Read a unit: its letter, or its letter and a `B`, in any case. -/
def read? (text : List Char) : Option MemoryUnit :=
  match Text.upper text with
  | ['M'] | ['M', 'B'] => some megabytes
  | ['G'] | ['G', 'B'] => some gigabytes
  | _ => none

/-- All spellings, as a refusal lists them. -/
def spellings : String := "'M', 'MB', 'G', 'GB'"

end MemoryUnit

namespace Memory

/-- The size in megabytes, at most the largest 64-bit number. -/
def inMegabytes (m : Memory) : Nat :=
  match m.unit with
  | .megabytes => m.amount
  | .gigabytes => min (1024 * m.amount) Text.maxWord

/-- The quantity as it is written: the amount and the letter of the unit. -/
def text (m : Memory) : String := toString m.amount ++ m.unit.letter

/-- A character of the magnitude. -/
def isMagnitude (c : Char) : Bool := c.isDigit || c == '.' || c == '-' || c == '+'

/-- The cause for a magnitude that is no 64-bit natural number: it is out of range when it is an
integer below one, and otherwise no number. -/
def magnitudeFault (magnitude : List Char) : Cause :=
  match Text.integerWithin? Text.minInt Text.maxInt magnitude with
  | some n => if n < 1 then .belowMinimum 1 else .notANumber
  | none => .notANumber

/-- Read the unit for an amount that has been read. -/
def readUnit (amount : Nat) (unit : List Char) : Except Cause Memory :=
  if unit = [] then .error (.missingUnit MemoryUnit.spellings)
  else match MemoryUnit.read? unit with
    | none => .error (.unknownUnit (String.ofList unit) MemoryUnit.spellings)
    | some u => if amount = 0 then .error (.belowMinimum 1) else .ok ⟨amount, u⟩

/-- Read a trimmed text. -/
def readTrimmed (text : List Char) : Except Cause Memory :=
  if text = [] then .error .empty
  else
    let (magnitude, rest) := Text.cutBefore (!isMagnitude ·) text
    match Text.naturalUpTo? Text.maxWord magnitude with
    | none => .error (magnitudeFault magnitude)
    | some amount => readUnit amount (Text.trim rest)

/-- Read a memory quantity. -/
def read (raw : String) : Except Error Memory :=
  (readTrimmed (Text.trim raw.toList)).mapError (⟨raw, ·⟩)

end Memory

end TypedManifest.Scalar
