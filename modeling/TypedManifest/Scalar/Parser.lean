import TypedManifest.Scalar.Integer
import TypedManifest.Scalar.Value
import TypedManifest.Hint.Store

/-!
# Parsers of scalars

A parser is a rule for the texts that a scalar type accepts. Six rules are built in, and a schema
may bring others of its own. A rule may depend on what is known through sources of hints at the
moment of reading, which the store tells; two of those built in do. No rule asks a provider for
hints, so parsing changes nothing.
-/

namespace TypedManifest.Scalar

/-- A rule for the texts of a scalar type. -/
inductive Parser where
  /-- Any text that is not blank. -/
  | nonEmpty
  /-- An integer of at least `min`. -/
  | integerAtLeast (min : Int)
  /-- A memory quantity. -/
  | memory
  /-- Exactly one of the members. -/
  | oneOf (typeName : String) (members : List String)
  /-- Any text that is not blank, if nothing is known through the source, and otherwise one of the
  known values. -/
  | known (typeName : String) (source : Source)
  /-- A route, whose domains are known through the source. -/
  | route (domains : Option Source) (strict : Bool)
  /-- Any other rule, which may refuse a text for any cause. -/
  | custom (rule : Store → String → Except Error Value)

/-- The rule is one of the six that are built in. -/
def Parser.isBuiltIn : Parser → Bool
  | custom _ => false
  | _ => true

/-- Refuse a blank text. -/
def requireText (raw : String) : Except Error Unit :=
  if Text.isBlankString raw then .error ⟨raw, .empty⟩ else .ok ()

/-- Read one of the members, as it is written. -/
def readMember (typeName : String) (members : List String) (raw : String) : Except Error Value :=
  if members.contains raw then .ok (.text raw) else .error ⟨raw, .unknownValue typeName members⟩

/-- Read a text that is not blank, and that is one of the known values if any are known. -/
def readKnown (typeName : String) (known : Option (List String)) (raw : String) :
    Except Error Value :=
  match requireText raw, known with
  | .error e, _ => .error e
  | .ok (), some values => readMember typeName values raw
  | .ok (), none => .ok (.text raw)

/-- Parse a text by a rule. -/
def Parser.parse (p : Parser) (σ : Store) (raw : String) : Except Error Value :=
  match p with
  | .nonEmpty => (requireText raw).map fun _ => .text raw
  | .integerAtLeast min => (readInteger min raw).map .integer
  | .memory => (Memory.read raw).map .memory
  | .oneOf typeName members => readMember typeName members raw
  | .known typeName source => readKnown typeName (σ.known source) raw
  | .route domains strict => (Route.read (domains.bind σ.known) strict raw).map .route
  | .custom rule => rule σ raw

end TypedManifest.Scalar
