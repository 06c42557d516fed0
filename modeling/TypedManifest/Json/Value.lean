/-!
# JSON values

The values that results are written as: truth values, texts, arrays, and objects whose members stand
in a given order. No result holds a number or null.
-/

namespace TypedManifest

/-- A JSON value. -/
inductive Json where
  /-- A truth value. -/
  | bool (b : Bool)
  /-- A text. -/
  | string (s : String)
  /-- An array. -/
  | array (items : List Json)
  /-- An object. -/
  | object (members : List (String × Json))

namespace Json

instance : Inhabited Json := ⟨.object []⟩

/-- A member that is there only if it has a value. -/
def optional (key : String) (value : Option Json) : List (String × Json) :=
  (value.map fun v => (key, v)).toList

end Json

end TypedManifest
