import TypedManifest.Decimal.Binary64

/-!
# The shortest decimal that reads back

The reals that round to a floating-point number form an interval around it: it reaches half-way to
both neighbours, and its ends belong to it when the mantissa is even. Of the decimals in the
interval the ones with the fewest digits are *shortest*, and of those the nearest to the number is
chosen. When two are equally near, the one with an even last digit is.

The search goes through one digit, two digits, and so on. For each it looks at the two neighbours of
the number on the grid of decimals with so many digits; seventeen digits always suffice.
-/

namespace TypedManifest

/-- A decimal, `digits * 10 ^ exponent`. -/
structure Decimal where
  /-- The digits, as a number. -/
  digits : Nat
  /-- The power of ten. -/
  exponent : Int
  deriving DecidableEq, Repr

namespace Decimal

/-- Compare `a * 10 ^ i` with `b * 2 ^ j`. -/
def compareScaled (a : Nat) (i : Int) (b : Nat) (j : Int) : Ordering :=
  compare (a * power 10 i * power 2 (-j)) (b * power 2 j * power 10 (-i))

/-- The neighbour below is half as far away as the neighbour above. -/
def narrowBelow (m : Nat) (e : Int) : Bool :=
  m = Nat.pow 2 (Binary64.precision - 1) && Binary64.minExponent < e

/-- The decimal lies among the reals that round to `m * 2 ^ e`. -/
def readsBack (m : Nat) (e : Int) (d : Decimal) : Bool :=
  let low := if narrowBelow m e then 4 * m - 1 else 4 * m - 2
  let high := 4 * m + 2
  let withEnds := m % 2 = 0
  let fromLow := compareScaled d.digits d.exponent low (e - 2)
  let fromHigh := compareScaled d.digits d.exponent high (e - 2)
  (fromLow == .gt || withEnds && fromLow == .eq) && (fromHigh == .lt || withEnds && fromHigh == .eq)

/-- The number of decimal digits of the whole part of `m * 2 ^ e`, or minus the number of zeros that
follow the point when there is no whole part: the least `k` such that `m * 2 ^ e < 10 ^ k`. -/
def order (m : Nat) (e : Int) : Int :=
  -- 1233 / 4096 is just below the logarithm of 2 to the base 10.
  let guess : Int := ((m.log2 : Int) + e) * 1233 / 4096 - 1
  let below (k : Int) : Bool := compareScaled 1 k m e == .gt
  ((List.range 5).map fun (i : Nat) => guess + i).find? below |>.getD (guess + 5)

/-- `m * 2 ^ e` in units of `10 ^ k`, rounded down. -/
def unitsBelow (m : Nat) (e k : Int) : Nat :=
  (m * power 2 e * power 10 (-k)) / (power 2 (-e) * power 10 k)

/-- Of two neighbours on a grid, the one nearer to `m * 2 ^ e`, and the even one of two equally
near. -/
def nearer (m : Nat) (e : Int) (d : Decimal) : Decimal :=
  match compareScaled (2 * d.digits + 1) d.exponent (2 * m) e with
  | .gt => d
  | .lt => ⟨d.digits + 1, d.exponent⟩
  | .eq => if d.digits % 2 = 0 then d else ⟨d.digits + 1, d.exponent⟩

/-- The decimal on the grid of step `10 ^ k` that reads back, if there is one. -/
def onGrid? (m : Nat) (e k : Int) : Option Decimal :=
  let d : Decimal := ⟨unitsBelow m e k, k⟩
  let u : Decimal := ⟨d.digits + 1, k⟩
  match readsBack m e d, readsBack m e u with
  | true, true => some (nearer m e d)
  | true, false => some d
  | false, true => some u
  | false, false => none

/-- The same decimal without zeros at the end of its digits. -/
def normalize (d : Decimal) : Decimal :=
  if d.digits = 0 then d
  else if d.digits % 10 = 0 then normalize ⟨d.digits / 10, d.exponent + 1⟩
  else d
termination_by d.digits
decreasing_by omega

/-- The greatest number of digits that a shortest decimal has. -/
def maxDigits : Nat := 17

/-- The shortest decimal that reads back as the positive number `m * 2 ^ e`. -/
def shortest (m : Nat) (e : Int) : Decimal :=
  let k := order m e
  normalize <| ((List.range maxDigits).findSome? fun (n : Nat) => onGrid? m e (k - (n + 1))).getD
    ⟨unitsBelow m e (k - maxDigits), k - maxDigits⟩

end Decimal

end TypedManifest
