/-!
# How many documents a stream may hold

A schema says how many documents it describes by an interval of integers, either end of which may be
left open. An interval whose ends are crossed is allowed and holds nothing. The count of a stream is
a natural number, and a count that no 64-bit integer can hold lies in no interval.
-/

namespace TypedManifest

/-- An interval of integers, both ends included; a missing end does not bound. -/
structure DocumentRange where
  /-- The least value, if there is one. -/
  lower : Option Int
  /-- The greatest value, if there is one. -/
  upper : Option Int
  deriving DecidableEq, Repr

/-- A stream with a number of documents that its schema does not allow. -/
structure DocumentCountError where
  /-- What the schema allows. -/
  expected : DocumentRange
  /-- How many documents there are. -/
  found : Nat
  deriving DecidableEq, Repr

namespace DocumentRange

/-- The interval of the one value `n`. -/
def exactly (n : Int) : DocumentRange := ⟨some n, some n⟩

/-- `n` and everything above. -/
def atLeast (n : Int) : DocumentRange := ⟨some n, none⟩

/-- `n` and everything below. -/
def atMost (n : Int) : DocumentRange := ⟨none, some n⟩

/-- From `lower` to `upper`. -/
def between (lower upper : Int) : DocumentRange := ⟨some lower, some upper⟩

/-- The values of the interval. -/
def contains (r : DocumentRange) (n : Int) : Bool :=
  r.lower.all (· ≤ n) && r.upper.all (n ≤ ·)

/-- The greatest count that an interval can hold: the largest 64-bit integer. -/
def maxCount : Nat := Nat.pow 2 63 - 1

/-- A count of documents that the interval allows. -/
def allows (r : DocumentRange) (found : Nat) : Bool :=
  decide (found ≤ maxCount) && r.contains found

/-- Refuse a count that is not allowed. -/
def check (r : DocumentRange) (found : Nat) : Except DocumentCountError Unit :=
  if r.allows found then .ok () else .error ⟨r, found⟩

/-- The interval in words, as they stand before a noun in the plural. -/
def phrase : DocumentRange → String
  | ⟨some lo, some hi⟩ => if lo = hi then s!"exactly {lo}" else s!"between {lo} and {hi}"
  | ⟨some lo, none⟩ => s!"at least {lo}"
  | ⟨none, some hi⟩ => s!"at most {hi}"
  | ⟨none, none⟩ => "any number of"

end DocumentRange

/-- What is said of a count that is not allowed. -/
def DocumentCountError.message (e : DocumentCountError) : String :=
  s!"expected {e.expected.phrase} YAML document(s), found {e.found}"

end TypedManifest
