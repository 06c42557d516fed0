import TypedManifest.Decimal.Shortest

/-!
# How a floating-point number is written

A number is written with the digits of its shortest decimal. Up to sixteen digits before the point,
and up to four zeros after it, the point stands where it belongs, with at least one digit on either
side. Outside these bounds one digit stands before the point, further digits after it, and the power
of ten after an `e`. The infinities and the number that is none have names of their own.
-/

namespace TypedManifest.Decimal

/-- So many zeros. -/
def zeros (n : Nat) : List Char := List.replicate n '0'

/-- The digits with the point after the first `k` of them, where `k` is the order of the number. -/
def positional (digits : List Char) (k : Int) : List Char :=
  if k ≤ 0 then ['0', '.'] ++ zeros (-k).toNat ++ digits
  else if digits.length ≤ k.toNat then digits ++ zeros (k.toNat - digits.length) ++ ['.', '0']
  else digits.take k.toNat ++ '.' :: digits.drop k.toNat

/-- One digit before the point, and the power of ten. -/
def scientific (digits : List Char) (k : Int) : List Char :=
  (match digits with
  | [] => []
  | [d] => [d]
  | d :: rest => d :: '.' :: rest) ++ 'e' :: (toString (k - 1)).toList

/-- The text of a positive decimal. -/
def text (d : Decimal) : List Char :=
  let digits := Nat.toDigits 10 d.digits
  let k : Int := digits.length + d.exponent
  if -5 < k ∧ k ≤ 16 then positional digits k else scientific digits k

/-- The text of a floating-point number. -/
def Binary64.text : Binary64 → String
  | .finite negative m e =>
    let digits := if m = 0 then ['0', '.', '0'] else (shortest m e).text
    String.ofList (if negative then '-' :: digits else digits)
  | .infinite negative => if negative then "-.inf" else ".inf"
  | .nan => ".nan"

end TypedManifest.Decimal
