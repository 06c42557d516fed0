/-!
# Binary floating-point numbers of 64 bits

A finite number is a mantissa of at most 53 bits times a power of two, with a sign of its own, so
that zero has two signs. A decimal is rounded to the nearest such number, and to the one with an
even mantissa when it lies half-way between two. Beyond the greatest of them lies infinity.

All arithmetic is exact, over natural numbers.
-/

namespace TypedManifest.Decimal

/-- A floating-point number. -/
inductive Binary64 where
  /-- The number `mantissa * 2 ^ exponent`, or its negative. -/
  | finite (negative : Bool) (mantissa : Nat) (exponent : Int)
  /-- An infinity. -/
  | infinite (negative : Bool)
  /-- No number at all. -/
  | nan
  deriving DecidableEq, Repr

/-- The quotient of two natural numbers, rounded to the nearest one; a half goes to the even
neighbour. -/
def roundDiv (n d : Nat) : Nat :=
  let q := n / d
  let r := n % d
  if 2 * r < d then q
  else if 2 * r = d then (if q % 2 = 0 then q else q + 1)
  else q + 1

/-- The power of a base, and 1 if the exponent is negative. -/
def power (base : Nat) (exponent : Int) : Nat := Nat.pow base exponent.toNat

namespace Binary64

/-- The number of bits of a mantissa. -/
def precision : Nat := 53

/-- The exponent of the least positive number, and of all numbers with as small a gap. -/
def minExponent : Int := -1074

/-- The greatest exponent of a finite number. -/
def maxExponent : Int := 971

/-- `n / d * 2 ^ -e`, rounded to a natural number. -/
def scaled (n d : Nat) (e : Int) : Nat :=
  roundDiv (n * power 2 (-e)) (d * power 2 e)

/-- The exponent that gives the quotient of two positive numbers a mantissa of 53 bits, or the least
exponent if that is greater. -/
def exponentOf (n d : Nat) : Int :=
  let guess : Int := (n.log2 : Int) - d.log2 - precision
  -- The guess is the exponent sought, or one less.
  let e :=
    if n * power 2 (-guess) < Nat.pow 2 precision * (d * power 2 guess) then guess else guess + 1
  max e minExponent

/-- The number nearest to `n / d`. -/
def ofRatio (negative : Bool) (n d : Nat) : Binary64 :=
  if n = 0 then .finite negative 0 minExponent
  else
    let e := exponentOf n d
    let m := scaled n d e
    -- Rounding up may reach the next power of two.
    let (m, e) := if m = Nat.pow 2 precision then (Nat.pow 2 (precision - 1), e + 1) else (m, e)
    if maxExponent < e then .infinite negative else .finite negative m e

/-- A decimal of this order or a higher one is beyond all finite numbers. -/
def tooLarge : Int := 310

/-- A decimal of this order or a lower one is nearest to zero. -/
def tooSmall : Int := -330

/-- The number nearest to the decimal `digits * 10 ^ exponent`. -/
def ofDecimal (negative : Bool) (digits : Nat) (exponent : Int) : Binary64 :=
  let width : Int := (Nat.toDigits 10 digits).length
  if digits = 0 then .finite negative 0 minExponent
  else if tooLarge ≤ exponent + width then .infinite negative
  else if exponent + width ≤ tooSmall then .finite negative 0 minExponent
  else ofRatio negative (digits * power 10 exponent) (power 10 (-exponent))

/-- A finite number. -/
def isFinite : Binary64 → Bool
  | finite .. => true
  | _ => false

/-- Equality of values: the two zeros are one value, and so are all numbers that are none. -/
def sameValue : Binary64 → Binary64 → Bool
  | finite _ 0 _, finite _ 0 _ => true
  | x, y => x == y

end Binary64

end TypedManifest.Decimal
