import TypedManifest.Yaml.Value

/-!
# When two keys are one

No mapping holds a key twice. Two keys are one when they are equal values: numbers by value, texts
character by character, sequences item by item, mappings entry by entry in any order, and values
under a tag when the tags are the same too. A whole number, a floating-point number and a text are
always different.
-/

namespace TypedManifest.Yaml.Value

mutual

/-- The values are equal as keys. -/
def sameKey : Value → Value → Bool
  | null, null => true
  | bool a, bool b => a == b
  | number a, number b => a.sameKey b
  | string a, string b => a == b
  | sequence xs, sequence ys => sameItems xs ys
  | mapping es, mapping fs => es.length == fs.length && sameEntries es fs
  | tagged t v, tagged u w => t == u && sameKey v w
  | _, _ => false

/-- The items are equal one by one. -/
def sameItems : List Value → List Value → Bool
  | [], [] => true
  | x :: xs, y :: ys => sameKey x y && sameItems xs ys
  | _, _ => false

/-- Each of the entries has its equal among the others. -/
def sameEntries : List (Value × Value) → List (Value × Value) → Bool
  | [], _ => true
  | (k, v) :: es, fs => (fs.any fun (l, w) => sameKey k l && sameKey v w) && sameEntries es fs

end

end TypedManifest.Yaml.Value
