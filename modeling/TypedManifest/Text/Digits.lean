/-!
# Integer literals

A natural-number literal is one or more ASCII digits, with an optional `+` in front; an integer
literal may have a `-` there as well. A literal stands for a mathematical integer of any size, and a
reader takes it only if that integer lies in the range the reader is given. No other sign, digit
separator or blank is part of a literal.
-/

namespace TypedManifest.Text

/-- One or more digits, read as a number. -/
def natural? (cs : List Char) : Option Nat :=
  if cs ≠ [] ∧ cs.all Char.isDigit then some (Nat.ofDigitChars 10 cs 0) else none

/-- A natural-number literal of at most `max`. -/
def naturalUpTo? (max : Nat) (cs : List Char) : Option Nat :=
  (natural? (match cs with | '+' :: r => r | _ => cs)).filter (· ≤ max)

/-- An integer literal of any size. -/
def integer? : List Char → Option Int
  | '-' :: r => (natural? r).map fun n => -(n : Int)
  | '+' :: r => (natural? r).map Int.ofNat
  | cs => (natural? cs).map Int.ofNat

/-- An integer literal that lies between `min` and `max`. -/
def integerWithin? (min max : Int) (cs : List Char) : Option Int :=
  (integer? cs).filter fun n => min ≤ n && n ≤ max

/-- The largest 64-bit natural number. -/
def maxWord : Nat := Nat.pow 2 64 - 1

/-- The largest 64-bit integer. -/
def maxInt : Int := Int.pow 2 63 - 1

/-- The smallest 64-bit integer. -/
def minInt : Int := -Int.pow 2 63

/-- The largest port number. -/
def maxPort : Nat := Nat.pow 2 16 - 1

end TypedManifest.Text
