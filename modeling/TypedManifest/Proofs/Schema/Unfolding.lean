import TypedManifest.Proofs.Schema.Rendering
import TypedManifest.Proofs.Text.Digits

/-!
# The JSON of a schema loses nothing

What a schema says is the range of its documents and the tree that its type unfolds to: the name and
the kind of every node, the members of enum types with what replaces them, the properties of beans
with the texts that describe them, and the types below (`Unfolded`). Numbers of nodes, parsers and
hints are no part of it. The tree is read off the definitions of the types and the sources of the
texts, not off anything that is computed from them for the JSON. The JSON of a schema tells just
what the tree does: two schemas have the same JSON exactly when they say the same
(`Schema.json_eq_iff`).

The kind tells what other members there are in the JSON of a type, and a member that may be missing
is missing only if it has no value. The range of documents stands in the JSON as a phrase, which is
made of words without spaces and can be taken apart again (`DocumentRange.phrase_injective`).
-/

namespace TypedManifest

/-! ### Unfolded types -/

mutual

/-- What a type says, with all types below it. -/
inductive Unfolded where
  /-- A scalar type without an enumeration. -/
  | scalar (name : String)
  /-- A scalar type with an enumeration, whose members stand each with the value to use instead if
  it is deprecated. -/
  | enum (name : String) (members : List (String × Option String))
  /-- A bean. -/
  | bean (name : String) (properties : List UnfoldedProperty)
  /-- A sequence. -/
  | sequence (name : String) (element : Unfolded)
  /-- A map. -/
  | map (name : String) (key value : Unfolded)

/-- What a property says: its name, whether it is required, the text that describes it, if there is
one, and the type of its value. -/
inductive UnfoldedProperty where
  /-- A property. -/
  | mk (name : String) (required : Bool) (description : Option String) (type : Unfolded)

end

/-- The text that a source has for a key. In a folder that is the text of the Markdown file named
for the key, if the key can name a file in the folder and the text is not blank. -/
def DescriptionRef.text? (folders : Folders) (d : DescriptionRef) : Option String :=
  match d.source with
  | .nowhere => none
  | .table rows => match rows.lookup d.key with
    | some (.text s) | some (.markdown s) => some s
    | _ => none
  | .folder number =>
    if d.key = "" ∨ '/' ∈ d.key.toList ∨ '\\' ∈ d.key.toList ∨ d.key.toList.head? = some '.' then
      none
    else match (folders number).read (d.key ++ ".md") with
      | .ok text => if Text.isBlankString text then none else some text
      | .error _ => none

mutual

/-- What a type says. -/
def SchemaType.unfold (folders : Folders) : SchemaType → Unfolded
  | .atomic _ a => match a.enumeration with
    | none => .scalar a.name
    | some e => .enum a.name (e.members.map fun m => (m, e.replacements.lookup m))
  | .bean _ name ps => .bean name (unfoldProperties folders ps)
  | .sequence n e => .sequence (SchemaType.sequence n e).name (e.unfold folders)
  | .map n k v => .map (SchemaType.map n k v).name (k.unfold folders) (v.unfold folders)

/-- What properties say. -/
def unfoldProperties (folders : Folders) : List Property → List UnfoldedProperty
  | [] => []
  | .mk name type required described :: rest =>
    .mk name required (described.bind (·.text? folders)) (type.unfold folders) ::
      unfoldProperties folders rest

end

/-- The kind of an unfolded type. -/
def Unfolded.kind : Unfolded → TypeKind
  | scalar _ => .atomic
  | enum .. => .enum
  | bean .. => .bean
  | sequence .. => .sequence
  | map .. => .map

variable {F G : Folders}

theorem SchemaType.kind_unfold (t : SchemaType) : (t.unfold F).kind = t.kind := by
  cases t with
  | atomic n a => rw [unfold, kind]; cases a.enumeration <;> rfl
  | _ => rfl

theorem TypeKind.name_injective : Function.Injective TypeKind.name := by
  intro k l h
  cases k <;> cases l <;> first | rfl | nomatch h

theorem textOf_kind_json (F : Folders) (t : SchemaType) :
    (t.json F).textOf "kind" = t.kind.name := by
  cases t <;> rw [SchemaType.json] <;> rfl

/-- What an atomic type says is its name, its kind, and the members that its JSON tells of. -/
theorem unfold_atomic_eq_iff {n m : Nat} {a b : Atomic} :
    (SchemaType.atomic n a).unfold F = (SchemaType.atomic m b).unfold G ↔
      a.name = b.name ∧ (SchemaType.atomic n a).kind = (SchemaType.atomic m b).kind ∧
        ((SchemaType.atomic n a).json F).enumEntries =
          ((SchemaType.atomic m b).json G).enumEntries := by
  rw [enumEntries_json_atomic, enumEntries_json_atomic]
  simp only [SchemaType.unfold, SchemaType.kind]
  cases a.enumeration <;> cases b.enumeration <;> simp

theorem json_atomic_eq_iff {n m : Nat} {a b : Atomic} :
    (SchemaType.atomic n a).json F = (SchemaType.atomic m b).json G ↔
      (SchemaType.atomic n a).unfold F = (SchemaType.atomic m b).unfold G := by
  rw [unfold_atomic_eq_iff]
  constructor
  · intro h
    refine ⟨?_, TypeKind.name_injective ?_, ?_⟩
    · have hname := congrArg (Json.textOf "name") h
      rwa [textOf_name_json, textOf_name_json] at hname
    · have hkind := congrArg (Json.textOf "kind") h
      rwa [textOf_kind_json, textOf_kind_json] at hkind
    · exact congrArg Json.enumEntries h
  · rintro ⟨hname, hkind, hentries⟩
    rw [enumEntries_json, enumEntries_json] at hentries
    rw [SchemaType.json, SchemaType.json, hname, hkind, hentries]

/-- Types of different kinds have neither their JSON in common nor what they say. -/
theorem json_eq_iff_of_kind_ne {t u : SchemaType} (h : t.kind ≠ u.kind) :
    t.json F = u.json G ↔ t.unfold F = u.unfold G := by
  refine iff_of_false (fun hjson => h ?_) fun hunfold => h ?_
  · apply TypeKind.name_injective
    rw [← textOf_kind_json F, hjson, textOf_kind_json]
  · rw [← t.kind_unfold (F := F), hunfold, SchemaType.kind_unfold]

/-- A key that cannot name a file in the folder itself is empty, holds a separator, or begins with a
dot. -/
theorem DescriptionRef.isFileKey_eq_false_iff (key : String) :
    isFileKey key = false ↔
      key = "" ∨ '/' ∈ key.toList ∨ '\\' ∈ key.toList ∨ key.toList.head? = some '.' := by
  have hseparator : key.toList.any (fun c => c == '/' || c == '\\') = true ↔
      '/' ∈ key.toList ∨ '\\' ∈ key.toList := by
    simp [List.any_eq_true, and_or_left, exists_or]
  simp only [isFileKey, Bool.and_eq_false_iff, Bool.not_eq_false', hseparator,
    bne_eq_false_iff_eq, ne_eq, decide_not, decide_eq_true_eq, or_assoc]

theorem DescriptionRef.text?_resolve (d : DescriptionRef) :
    (d.resolve F).1.text? = d.text? F := by
  obtain ⟨source, key⟩ := d
  cases source with
  | nowhere => rfl
  | table rows =>
    simp only [resolve, text?]
    rcases rows.lookup key with _ | _ | _ | _ <;> rfl
  | folder number =>
    simp only [resolve, resolveIn, text?, Bool.not_eq_true', isFileKey_eq_false_iff, fileName]
    split
    case isTrue => rfl
    case isFalse =>
      rcases (F number).read (key ++ ".md") with e | text
      · cases e <;> rfl
      · by_cases hblank : Text.isBlankString text <;> simp [hblank, Description.text?]

/-- What is found when a description is looked up is the text that its source has. -/
theorem Property.text?_description (p : Property) :
    (p.description F).1.text? = p.described.bind (·.text? F) := by
  rw [description]
  cases p.described with
  | none => rfl
  | some d => exact d.text?_resolve

/-- The description is the first member of the JSON of a property, if it is there, and no other
member could be taken for it. -/
theorem object_description_eq_iff {d d' : Option String} {name name' : String} {r r' : Bool}
    {t t' : Json} :
    Json.object (Json.optional "description" (d.map .string) ++
        [("name", .string name), ("required", .bool r), ("type", t)]) =
      .object (Json.optional "description" (d'.map .string) ++
        [("name", .string name'), ("required", .bool r'), ("type", t')]) ↔
      name = name' ∧ r = r' ∧ d = d' ∧ t = t' := by
  cases d <;> cases d' <;> simp [Json.optional, and_left_comm]

mutual

/-- Two types have the same JSON exactly when they say the same. -/
theorem json_eq_iff_unfold_eq (t u : SchemaType) :
    t.json F = u.json G ↔ t.unfold F = u.unfold G := by
  cases t <;> cases u
  case atomic.atomic n a m b => exact json_atomic_eq_iff
  case bean.bean n name ps m name' qs =>
    simp [SchemaType.json, SchemaType.unfold, propertiesJson_eq_iff ps qs]
  case sequence.sequence n e m f =>
    simp [SchemaType.json, SchemaType.unfold, json_eq_iff_unfold_eq e f, and_comm]
  case map.map n k v m l w =>
    simp [SchemaType.json, SchemaType.unfold, json_eq_iff_unfold_eq k l,
      json_eq_iff_unfold_eq v w, and_left_comm]
  -- Two types of different forms are of different kinds.
  all_goals exact json_eq_iff_of_kind_ne (by grind [SchemaType.kind])

/-- Two lists of properties have the same JSON exactly when they say the same. -/
theorem propertiesJson_eq_iff : (ps qs : List Property) →
    (propertiesJson F ps = propertiesJson G qs ↔ unfoldProperties F ps = unfoldProperties G qs)
  | [], [] => iff_of_true rfl rfl
  | [], .mk .. :: _ => iff_of_false nofun nofun
  | .mk .. :: _, [] => iff_of_false nofun nofun
  | .mk name type required described :: ps, .mk name' type' required' described' :: qs => by
    simp only [propertiesJson, unfoldProperties, List.cons.injEq, propertiesJson_eq_iff ps qs,
      Property.text?_description, Property.described, object_description_eq_iff,
      json_eq_iff_unfold_eq type type', UnfoldedProperty.mk.injEq]

end

/-! ### The range of documents -/

namespace DocumentRange

/-- The words of the phrase for a range. -/
def words : DocumentRange → List String
  | ⟨some lo, some hi⟩ =>
    if lo = hi then ["exactly", toString lo] else ["between", toString lo, "and", toString hi]
  | ⟨some lo, none⟩ => ["at", "least", toString lo]
  | ⟨none, some hi⟩ => ["at", "most", toString hi]
  | ⟨none, none⟩ => ["any", "number", "of"]

theorem phrase_eq (r : DocumentRange) : r.phrase = " ".intercalate r.words := by
  have htext (s : String) : toString s = s := rfl
  apply String.toList_injective
  rcases r with ⟨_ | lo, _ | hi⟩
  · rfl
  · simp [phrase, words, htext]
  · simp [phrase, words, htext]
  · by_cases h : lo = hi <;> simp [phrase, words, htext, h]

theorem space_not_mem_toString (n : Int) : ' ' ∉ (toString n).toList := by
  rw [Text.toList_toString_int]
  split
  · exact Text.not_mem_toDigits _ rfl
  · simp [Text.not_mem_toDigits]

theorem space_not_mem_of_mem_words (r : DocumentRange) : ∀ w ∈ r.words, ' ' ∉ w.toList := by
  have hnumber := space_not_mem_toString
  rcases r with ⟨_ | lo, _ | hi⟩
  · decide
  · simpa [words] using hnumber hi
  · simpa [words] using hnumber lo
  · by_cases h : lo = hi
    · simpa [words, h] using hnumber hi
    · simpa [words, h] using ⟨hnumber lo, hnumber hi⟩

theorem words_ne_nil (r : DocumentRange) : r.words ≠ [] := by
  rcases r with ⟨_ | lo, _ | hi⟩
  · nofun
  · nofun
  · nofun
  · by_cases h : lo = hi <;> simp [words, h]

/-- At the spaces a phrase falls into its words. -/
theorem splitOn_phrase (r : DocumentRange) :
    r.phrase.toList.splitOn ' ' = r.words.map String.toList := by
  rw [phrase_eq, String.toList_intercalate]
  refine List.splitOn_intercalate ' ' ?_ (by simp [words_ne_nil])
  simpa using r.space_not_mem_of_mem_words

theorem toString_int_injective : Function.Injective (toString : Int → String) := by
  intro m n h
  have hm := Text.integer?_toString m
  rw [h, Text.integer?_toString] at hm
  exact (Option.some.inj hm).symm

/-- The first two words tell which ends the range has, and the others tell the ends. -/
theorem words_injective : Function.Injective words := by
  intro r s h
  have hnumber := toString_int_injective
  rcases r with ⟨_ | lo, _ | hi⟩ <;> rcases s with ⟨_ | lo', _ | hi'⟩ <;> grind [words]

/-- **A phrase tells the range.** -/
theorem phrase_injective : Function.Injective phrase := by
  intro r s h
  have hwords : r.words.map String.toList = s.words.map String.toList := by
    rw [← splitOn_phrase, h, splitOn_phrase]
  exact words_injective ((List.map_inj_right fun _ _ => String.toList_injective).mp hwords)

end DocumentRange

/-! ### Schemas -/

/-- **The JSON of a schema tells what the schema says, and nothing else**: two schemas have the same
JSON exactly when they allow the same numbers of documents and their types unfold to the same tree.
The texts that describe the properties of each are looked up in folders of its own. -/
theorem Schema.json_eq_iff (S T : Schema) (F G : Folders) :
    S.json F = T.json G ↔ S.documents = T.documents ∧ S.root.unfold F = T.root.unfold G := by
  rw [← json_eq_iff_unfold_eq, ← DocumentRange.phrase_injective.eq_iff]
  simp [json]

/-- What is said of a deprecated member and of a property whose text stands in a file. Other numbers
of nodes leave the JSON as it is; another replacement shows in it, and so does another text. -/
theorem Schema.json_eq_iff_deprecated :
    let mode (replacement : String) : Atomic :=
      { name := "Mode", enumeration := some ⟨["old", "new", "newer"], [("old", replacement)]⟩ }
    let settings (n : Nat) (replacement : String) : Schema :=
      ⟨.bean n "Settings" [.mk "mode" (.atomic (n + 1) (mode replacement)) true
        (some ⟨.folder 0, "mode"⟩)], .atMost 1⟩
    let told (text : String) : Folders := fun _ =>
      ⟨"docs", fun file => if file = "mode.md" then .ok text else .error .notFound⟩
    ((settings 0 "new").root.unfold (told "How.") = .bean "Settings" [.mk "mode" true (some "How.")
        (.enum "Mode" [("old", some "new"), ("new", none), ("newer", none)])]) ∧
      (settings 0 "new").json (told "How.") = (settings 7 "new").json (told "How.") ∧
      (settings 0 "new").json (told "How.") ≠ (settings 0 "newer").json (told "How.") ∧
      (settings 0 "new").json (told "How.") ≠ (settings 0 "new").json (told "\n") := by
  intro mode settings told
  have hunfold (n : Nat) (replacement : String) :
      (settings n replacement).root.unfold (told "How.") =
        .bean "Settings" [.mk "mode" true (some "How.")
          (.enum "Mode" [("old", some replacement), ("new", none), ("newer", none)])] := rfl
  refine ⟨hunfold 0 "new", (json_eq_iff _ _ _ _).mpr ⟨rfl, ?_⟩, fun h => ?_, fun h => ?_⟩
  · rw [hunfold, hunfold]
  · have hroots := ((json_eq_iff _ _ _ _).mp h).2
    rw [hunfold, hunfold] at hroots
    simp at hroots
  · have hroots := ((json_eq_iff _ _ _ _).mp h).2
    have hblank : (settings 0 "new").root.unfold (told "\n") =
        .bean "Settings" [.mk "mode" true none
          (.enum "Mode" [("old", some "new"), ("new", none), ("newer", none)])] := rfl
    rw [hunfold, hblank] at hroots
    simp at hroots

end TypedManifest
