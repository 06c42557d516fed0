import TypedManifest.Config.Basic
import TypedManifest.Yaml.Anchor
import TypedManifest.Yaml.Document
import TypedManifest.Yaml.Scalar

/-!
# Reading a configuration file

A configuration file is one YAML document, a mapping from the names of settings to their values.
Every setting may be left out or be null; none may be there twice, and there are no others. A file
without content sets nothing.

The values are taken as they are written and not by what they mean as YAML: an item of a list is the
text of a scalar, so that `1.50` stays what it is. Tags are hardly looked at: a value with a tag is
there and not null, unless the tag says null, which then asks for the word.
-/

namespace TypedManifest.Config

open Yaml

/-- A setting. -/
inductive Setting where
  /-- The buildpacks. -/
  | buildpacks
  /-- The services. -/
  | services
  /-- The domains. -/
  | domains
  /-- The timeout. -/
  | timeout
  /-- The folder with the descriptions. -/
  | descriptions
  deriving DecidableEq, Repr

/-- The setting of a given name. -/
def Setting.named? : String → Option Setting
  | "buildpacks" => some buildpacks
  | "services" => some services
  | "domains" => some domains
  | "hint_timeout_ms" => some timeout
  | "descriptions_dir" => some descriptions
  | _ => none

/-- The node that a node stands for. -/
def meant? (d : Node.Linked) : Node Nat → Option (Node Nat)
  | .alias slot => d.node? slot
  | node => some node

/-- The text of a scalar. -/
def textOf? (d : Node.Linked) (node : Node Nat) : Option String := do
  match ← meant? d node with
  | .scalar _ _ text _ => some text
  | _ => none

/-- A value that is null sets nothing. A plain scalar is null if it is empty or the word, and under
the tag for null it must be the word. -/
def isAbsent? : Node Nat → Option Bool
  | .scalar _ none text .plain => some (text = "" || isNullWord text)
  | .scalar _ (some tag) text .plain =>
    if tag = Tag.core "null" then if isNullWord text then some true else none else some false
  | _ => some false

/-- A list of texts. An empty plain scalar is an empty list. -/
def listOf? (d : Node.Linked) : Node Nat → Option (List String)
  | .sequence _ _ items => items.mapM (textOf? d)
  | .scalar _ _ "" .plain => some []
  | _ => none

/-- A scalar that may be a number: a plain one, or a literal block with the tag for integers. -/
def mayBeNumber (tag : Option Tag) (style : ScalarStyle) : Bool :=
  style = .plain || (style = .literal && tag = some (Tag.core "int"))

/-- A natural number without a minus in front. -/
def unsigned? (text : List Char) : Option Nat :=
  match text with
  | '-' :: _ => none
  | '+' :: r => magnitude? r
  | r => magnitude? r

/-- A 64-bit natural number. -/
def wordOf? : Node Nat → Option Nat
  | .scalar _ tag text style =>
    if mayBeNumber tag style then (unsigned? text.toList).filter (· ≤ Text.maxWord) else none
  | _ => none

/-- Set a setting to the value that a node, which is no alias, holds. -/
def set? (d : Node.Linked) (c : Config) (setting : Setting) (node : Node Nat) : Option Config := do
  if ← isAbsent? node then return c
  match setting with
  | .buildpacks => return { c with buildpacks := some (← listOf? d node) }
  | .services => return { c with services := some (← listOf? d node) }
  | .domains => return { c with domains := some (← listOf? d node) }
  | .timeout => return { c with hintTimeout := some (← wordOf? node) }
  | .descriptions => return { c with descriptionsFolder := some (← textOf? d node) }

/-- Read the entries of the mapping, given the settings that have been there. -/
def ofEntries? (d : Node.Linked) (seen : List Setting) (c : Config) :
    List (Node Nat × Node Nat) → Option Config
  | [] => some c
  | (key, value) :: entries => do
    let setting ← Setting.named? (← textOf? d key)
    if seen.contains setting then none
    else ofEntries? d (setting :: seen) (← set? d c setting (← meant? d value)) entries

/-- Read the document. An empty plain scalar sets nothing. -/
def ofNode? (d : Node.Linked) : Option Config :=
  match d.root with
  | .mapping _ _ entries => ofEntries? d [] {} entries
  | .scalar _ _ "" .plain => some {}
  | _ => none

/-- Read a text. -/
def ofText? (text : String) : Option Config :=
  match Node.ofString text with
  | .ok [] => some {}
  | .ok [root] => (Node.Linked.of root).toOption.bind ofNode?
  | _ => none

/-- Read the file of a given name, once its text is known. -/
def ofFile (path : String) (content : Except FileError String) : Except ConfigError Config :=
  match content with
  | .error e => .error (.unreadable path e)
  | .ok text => match ofText? text with
    | some c => .ok c
    | none => .error (.invalid path)

end TypedManifest.Config
