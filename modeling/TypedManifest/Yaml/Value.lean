import TypedManifest.Decimal.Notation

/-!
# Values of YAML documents

A document that has been read is a value: null, a boolean, a number or a text, a sequence of values,
a mapping from values to values in the order in which they were written, or a value under a tag of
the author's own.

A tag of the author's own is looked through when a value is asked whether it is null or what its
text is, and not when it is asked for its shape or compared with a key.
-/

namespace TypedManifest.Yaml

/-- A number. -/
inductive Number where
  /-- A whole number of at most 64 bits. -/
  | int (n : Int)
  /-- A floating-point number. -/
  | float (x : Decimal.Binary64)
  deriving DecidableEq, Repr

/-- The canonical text of a number. -/
def Number.text : Number → String
  | int n => toString n
  | float x => x.text

/-- Equality of numbers as keys. A whole number never equals a floating-point one. -/
def Number.sameKey : Number → Number → Bool
  | int m, int n => m == n
  | float x, float y => x.sameValue y
  | _, _ => false

/-- A value. -/
inductive Value where
  /-- Nothing. -/
  | null
  /-- True or false. -/
  | bool (b : Bool)
  /-- A number. -/
  | number (n : Number)
  /-- A text. -/
  | string (s : String)
  /-- Items in order. -/
  | sequence (items : List Value)
  /-- Entries in order, each a key and a value. -/
  | mapping (entries : List (Value × Value))
  /-- A value under a tag of the author's own. -/
  | tagged (tag : String) (value : Value)

instance : Inhabited Value := ⟨.null⟩

/-- The outer form of a value. -/
inductive Shape where
  /-- Null. -/
  | null
  /-- A boolean, a number or a text. -/
  | scalar
  /-- A sequence. -/
  | sequence
  /-- A mapping. -/
  | mapping
  /-- A value under a tag. -/
  | tagged
  deriving DecidableEq, Repr

/-- The name of a shape. -/
def Shape.name : Shape → String
  | null => "null"
  | scalar => "scalar"
  | sequence => "sequence"
  | mapping => "mapping"
  | tagged => "tagged value"

namespace Value

/-- The value under all tags. -/
def untagged : Value → Value
  | tagged _ v => v.untagged
  | v => v

/-- Null, under tags or not. -/
def isNull : Value → Bool
  | null => true
  | tagged _ v => v.isNull
  | _ => false

/-- The text of a text, under tags or not. -/
def string? : Value → Option String
  | string s => some s
  | tagged _ v => v.string?
  | _ => none

/-- The text of a scalar, under tags or not: a text itself, and the canonical text of a number or a
boolean. -/
def scalarText? : Value → Option String
  | string s => some s
  | number n => some n.text
  | bool b => some (if b then "true" else "false")
  | tagged _ v => v.scalarText?
  | null | sequence _ | mapping _ => none

/-- The outer form. -/
def shape : Value → Shape
  | null => .null
  | bool _ | number _ | string _ => .scalar
  | sequence _ => .sequence
  | mapping _ => .mapping
  | tagged .. => .tagged

/-- The value is the given text, without a tag. -/
def isString (name : String) : Value → Bool
  | string s => s == name
  | _ => false

/-- A list of entries holds the key, without a tag. -/
def hasKey (name : String) (entries : List (Value × Value)) : Bool :=
  entries.any fun (k, _) => k.isString name

/-! ### Equality -/

mutual

/-- Whether two values are the same. -/
def decEq : (v w : Value) → Decidable (v = w)
  | null => fun
    | null => isTrue rfl
    | bool _ | number _ | string _ | sequence _ | mapping _ | tagged .. => isFalse nofun
  | bool a => fun
    | bool b => decidable_of_iff (a = b) (by rw [bool.injEq])
    | null | number _ | string _ | sequence _ | mapping _ | tagged .. => isFalse nofun
  | number m => fun
    | number n => decidable_of_iff (m = n) (by rw [number.injEq])
    | null | bool _ | string _ | sequence _ | mapping _ | tagged .. => isFalse nofun
  | string s => fun
    | string t => decidable_of_iff (s = t) (by rw [string.injEq])
    | null | bool _ | number _ | sequence _ | mapping _ | tagged .. => isFalse nofun
  | sequence vs => fun
    | sequence ws =>
      have := decEqItems vs ws
      decidable_of_iff (vs = ws) (by rw [sequence.injEq])
    | null | bool _ | number _ | string _ | mapping _ | tagged .. => isFalse nofun
  | mapping es => fun
    | mapping fs =>
      have := decEqEntries es fs
      decidable_of_iff (es = fs) (by rw [mapping.injEq])
    | null | bool _ | number _ | string _ | sequence _ | tagged .. => isFalse nofun
  | tagged t v => fun
    | tagged u w =>
      have := decEq v w
      decidable_of_iff (t = u ∧ v = w) (by rw [tagged.injEq])
    | null | bool _ | number _ | string _ | sequence _ | mapping _ => isFalse nofun

/-- Whether two lists of items are the same. -/
def decEqItems : (vs ws : List Value) → Decidable (vs = ws)
  | [] => fun
    | [] => isTrue rfl
    | _ :: _ => isFalse nofun
  | v :: vs => fun
    | [] => isFalse nofun
    | w :: ws =>
      have := decEq v w
      have := decEqItems vs ws
      decidable_of_iff (v = w ∧ vs = ws) (by rw [List.cons.injEq])

/-- Whether two lists of entries are the same. -/
def decEqEntries : (es fs : List (Value × Value)) → Decidable (es = fs)
  | [] => fun
    | [] => isTrue rfl
    | _ :: _ => isFalse nofun
  | (k, v) :: es => fun
    | [] => isFalse nofun
    | (l, w) :: fs =>
      have := decEq k l
      have := decEq v w
      have := decEqEntries es fs
      decidable_of_iff ((k = l ∧ v = w) ∧ es = fs) (by rw [List.cons.injEq, Prod.mk.injEq])

end

instance : DecidableEq Value := decEq

end Value

end TypedManifest.Yaml
