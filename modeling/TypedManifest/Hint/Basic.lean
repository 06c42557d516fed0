/-!
# Hints

A hint is a value that is offered to whoever fills in a scalar, perhaps under a label that says more
than the value does. A list of hints may repeat a value; of several hints for one value the first
counts.
-/

namespace TypedManifest

/-- A suggested value. -/
structure Hint where
  /-- The text that is put into the document. -/
  value : String
  /-- The text that is shown for it, where it is not the value. -/
  label : Option String := none
  deriving DecidableEq, Repr

/-- A list of hints that cannot be had. -/
inductive HintError where
  /-- The provider said that it has none, and why. -/
  | unavailable (provider reason : String)
  /-- The provider did not answer within so many milliseconds. -/
  | timedOut (provider : String) (timeout : Nat)
  deriving DecidableEq, Repr

namespace Hint

/-- The text that is shown. -/
def shown (h : Hint) : String := h.label.getD h.value

/-- The hints whose value has not occurred before them and is not in `seen`. -/
def firstsExcept (seen : List String) : List Hint → List Hint
  | [] => []
  | h :: hs =>
    if seen.contains h.value then firstsExcept seen hs
    else h :: firstsExcept (h.value :: seen) hs

/-- One hint for each value, the first one, in order of first occurrence. -/
def firsts (hs : List Hint) : List Hint := firstsExcept [] hs

end Hint

/-- What is said of hints that cannot be had. -/
def HintError.message : HintError → String
  | .unavailable provider reason => s!"hint source '{provider}' unavailable: {reason}"
  | .timedOut provider timeout => s!"hint source '{provider}' timed out after {timeout} ms"

end TypedManifest
