import TypedManifest.Schema.Outline
import TypedManifest.Schema.Tree

/-!
# The two renderings of a schema

A schema is shown as an outline and as JSON. The JSON tells of every property of every bean, however
the bean is reached; here it is read for them from the top down, each property before those that lie
below it, together with the way that leads to its bean (`Json.listings`). The outline goes down less
far. It follows a property to a bean, directly or through one sequence or the values of one map, and
no further (`isOpen`).

So the outline shows, in the same order, those properties of the JSON whose bean is reached in such
a way, each as deep as there are beans around it and with the same name, type, mark and members
(`outlineText_eq`). It does not show all of them.
-/

namespace TypedManifest

/-! ### Ways to a type -/

/-- A step from a type to one below it. -/
inductive Hop where
  /-- To the type of a property. -/
  | property (name : String)
  /-- To the elements of a sequence. -/
  | element
  /-- To the keys of a map. -/
  | key
  /-- To the values of a map. -/
  | value
  deriving DecidableEq, Repr

/-- The way leads through properties, and from the type of each of them to the next at most through
one sequence or through the values of one map. -/
def Hop.isOpen : List Hop → Bool
  | [] => true
  | .property _ :: .element :: way => isOpen way
  | .property _ :: .value :: way => isOpen way
  | .property _ :: way => isOpen way
  | _ => false

/-- How many properties the way leads through. -/
def Hop.depth (way : List Hop) : Nat := way.countP fun
  | .property _ => true
  | _ => false

/-! ### Reading JSON -/

/-- What JSON tells of a property. -/
structure Listing where
  /-- The way from the top to the bean that has the property. -/
  way : List Hop
  /-- The name of the property. -/
  name : String
  /-- The name of its type. -/
  typeName : String
  /-- Whether it is required. -/
  required : Bool
  /-- The members of an enum type, each with the value to use instead if it is deprecated. -/
  members : List (String × Option String)
  deriving DecidableEq, Repr

namespace Listing

/-- A property below a type, seen from above the type. -/
def under (hop : Hop) (l : Listing) : Listing := { l with way := hop :: l.way }

/-- The entry that an outline has for the property. -/
def entry (depth : Nat) (l : Listing) : OutlineEntry :=
  ⟨depth + Hop.depth l.way, l.name, l.typeName, l.required, l.members⟩

end Listing

namespace Json

/-- What a string holds. -/
def text? : Json → Option String
  | .string s => some s
  | _ => none

/-- What a Boolean holds. -/
def truth? : Json → Option Bool
  | .bool b => some b
  | _ => none

/-- The member of an object that has the key. -/
def member? (key : String) : Json → Option Json
  | .object members => members.lookup key
  | _ => none

/-- The items of an array; nothing else has any. -/
def items : Json → List Json
  | .array items => items
  | _ => []

/-- The string that a member holds, or else the empty one. -/
def textOf (key : String) (v : Json) : String := ((v.member? key).bind text?).getD ""

/-- Read a member of an enum type. -/
def readEnumEntry (v : Json) : String × Option String :=
  (v.textOf "value", (v.member? "replacement").bind text?)

/-- Read the members of an enum type; no other type has any. -/
def enumEntries (v : Json) : List (String × Option String) :=
  (((v.member? "members").map items).getD []).map readEnumEntry

/-- Read a property, without what lies below it. -/
def readProperty (v : Json) : Listing where
  way := []
  name := v.textOf "name"
  typeName := ((v.member? "type").map (textOf "name")).getD ""
  required := ((v.member? "required").bind truth?).getD false
  members := ((v.member? "type").map enumEntries).getD []

mutual

/-- The properties that a schema or a type tells of, each before those that lie below it. -/
def listings : Json → List Listing
  | .object members => memberListings members
  | _ => []

/-- The properties that the members of a schema or of a type tell of. -/
def memberListings : List (String × Json) → List Listing
  | [] => []
  | (key, v) :: rest =>
    (match key, v with
      | "root", v => listings v
      | "element", v => (listings v).map (.under .element)
      | "key", v => (listings v).map (.under .key)
      | "value", v => (listings v).map (.under .value)
      | "properties", .array items => propertyListings items
      | _, _ => []) ++ memberListings rest

/-- The properties of a bean, each before those that lie below it. -/
def propertyListings : List Json → List Listing
  | [] => []
  | v :: vs =>
    v.readProperty ::
      ((match v with
        | .object members => typeListings members
        | _ => []).map (.under (.property (v.textOf "name"))) ++ propertyListings vs)

/-- The properties that lie below a property, which tells of its type in one of its members. -/
def typeListings : List (String × Json) → List Listing
  | [] => []
  | (key, v) :: rest => if key = "type" then listings v else typeListings rest

end

end Json

/-! ### What the JSON of a type tells -/

section

variable {folders : Folders} {n : Nat}

theorem readEnumEntry_memberJson (e : String × Option String) :
    (memberJson e).readEnumEntry = e := by
  rcases e with ⟨value, _ | replacement⟩ <;> rfl

theorem textOf_name_json (folders : Folders) (t : SchemaType) :
    (t.json folders).textOf "name" = t.name := by
  cases t with
  | atomic n a =>
    rw [SchemaType.json]
    by_cases h : (SchemaType.atomic n a).enumEntries = []
    · rw [if_pos h]
      rfl
    · rw [if_neg h]
      rfl
  | bean n name ps => rw [SchemaType.json]; rfl
  | sequence n e => rw [SchemaType.json]; rfl
  | map n k v => rw [SchemaType.json]; rfl

theorem enumEntries_json (folders : Folders) (t : SchemaType) :
    (t.json folders).enumEntries = t.enumEntries := by
  cases t with
  | atomic n a =>
    rw [SchemaType.json]
    by_cases h : (SchemaType.atomic n a).enumEntries = []
    · rw [if_pos h, h]
      rfl
    · rw [if_neg h]
      calc (((SchemaType.atomic n a).enumEntries.map memberJson)).map Json.readEnumEntry
          = (SchemaType.atomic n a).enumEntries.map id := by
            rw [List.map_map]
            exact List.map_congr_left fun e _ => readEnumEntry_memberJson e
        _ = (SchemaType.atomic n a).enumEntries := List.map_id _
  | bean n name ps => rw [SchemaType.json]; rfl
  | sequence n e => rw [SchemaType.json]; rfl
  | map n k v => rw [SchemaType.json]; rfl

/-- The JSON of an atomic type tells of the members of its enumeration, in their order, and of each
what the table of replacements has for it. -/
theorem enumEntries_json_atomic (folders : Folders) (n : Nat) (a : Atomic) :
    ((SchemaType.atomic n a).json folders).enumEntries = match a.enumeration with
      | some e => e.members.map fun m => (m, e.replacements.lookup m)
      | none => [] := by
  rw [enumEntries_json, SchemaType.enumEntries, SchemaType.enumeration?]
  cases a.enumeration <;> rfl

theorem listings_json_atomic (a : Atomic) :
    ((SchemaType.atomic n a).json folders).listings = [] := by
  rw [SchemaType.json]
  by_cases h : (SchemaType.atomic n a).enumEntries = []
  · rw [if_pos h]
    rfl
  · rw [if_neg h]
    rfl

theorem listings_json_bean (name : String) (ps : List Property) :
    ((SchemaType.bean n name ps).json folders).listings =
      Json.propertyListings (propertiesJson folders ps) := by
  rw [SchemaType.json]
  exact List.append_nil _

theorem listings_json_sequence (e : SchemaType) :
    ((SchemaType.sequence n e).json folders).listings =
      (e.json folders).listings.map (.under .element) := by
  rw [SchemaType.json]
  exact List.append_nil _

theorem listings_json_map (k v : SchemaType) :
    ((SchemaType.map n k v).json folders).listings =
      (k.json folders).listings.map (.under .key) ++
        (v.json folders).listings.map (.under .value) := by
  rw [SchemaType.json]
  exact congrArg (_ ++ ·) (List.append_nil _)

theorem propertyListings_cons (name : String) (type : SchemaType) (required : Bool)
    (described : Option DescriptionRef) (ps : List Property) :
    Json.propertyListings (propertiesJson folders (.mk name type required described :: ps)) =
      ⟨[], name, type.name, required, type.enumEntries⟩ ::
        ((type.json folders).listings.map (.under (.property name)) ++
          Json.propertyListings (propertiesJson folders ps)) := by
  rw [propertiesJson, Json.propertyListings]
  cases ((Property.mk name type required described).description folders).1.text? with
  | none =>
    rw [← textOf_name_json folders type, ← enumEntries_json folders type]
    rfl
  | some text =>
    rw [← textOf_name_json folders type, ← enumEntries_json folders type]
    rfl

/-! ### What the outline shows -/

namespace Listing

/-- The properties whose bean is reached by an open way. -/
def shown (found : List Listing) : List Listing := found.filter fun l => Hop.isOpen l.way

theorem shown_append (xs ys : List Listing) : shown (xs ++ ys) = shown xs ++ shown ys :=
  List.filter_append ..

theorem shown_map {f : Listing → Listing} {found : List Listing}
    (h : ∀ l ∈ found, Hop.isOpen (f l).way = Hop.isOpen l.way) :
    shown (found.map f) = (shown found).map f := by
  rw [shown, List.filter_map]
  exact congrArg _ (List.filter_congr h)

theorem shown_map_of_closed {f : Listing → Listing} (h : ∀ l, Hop.isOpen (f l).way = false)
    (found : List Listing) : shown (found.map f) = [] := by
  rw [shown, List.filter_eq_nil_iff]
  intro l hl
  obtain ⟨l', -, rfl⟩ := List.mem_map.mp hl
  exact Bool.eq_false_iff.mp (h l')

theorem entry_under_property (depth : Nat) (name : String) (l : Listing) :
    (l.under (.property name)).entry depth = l.entry (depth + 1) := by
  have hdepth : Hop.depth (.property name :: l.way) = Hop.depth l.way + 1 :=
    List.countP_cons_of_pos rfl
  rw [entry, entry, under, hdepth, Nat.add_right_comm, Nat.add_assoc]

end Listing

open Listing

/-- The way to a property of a bean begins with a property, as far as it leads anywhere. -/
theorem isOpen_property_cons {ps : List Property} {l : Listing} (name : String)
    (h : l ∈ Json.propertyListings (propertiesJson folders ps)) :
    Hop.isOpen (.property name :: l.way) = Hop.isOpen l.way := by
  induction ps with
  | nil => nomatch h
  | cons p ps ih =>
    obtain ⟨name', type, required, described⟩ := p
    rw [propertyListings_cons, List.mem_cons, List.mem_append] at h
    rcases h with rfl | h | h
    · rfl
    · obtain ⟨l', -, rfl⟩ := List.mem_map.mp h
      rfl
    · exact ih h

/-- The properties of the bean that the type is, or that is directly below it. -/
def SchemaType.nearProperties : SchemaType → List Property
  | .atomic .. => []
  | .bean _ _ ps => ps
  | .sequence _ e => e.properties
  | .map _ _ v => v.properties

theorem outline_eq (depth : Nat) (t : SchemaType) :
    t.outline depth = outlineOf depth t.nearProperties := by
  cases t with
  | atomic n a => rw [SchemaType.outline] <;> first | rfl | nofun
  | bean n name ps => rw [SchemaType.outline]; rfl
  | sequence n e => cases e <;> rw [SchemaType.outline] <;> first | rfl | nofun
  | map n k v => cases v <;> rw [SchemaType.outline] <;> first | rfl | nofun

theorem sizeOf_properties_le (t : SchemaType) : sizeOf t.properties ≤ sizeOf t := by
  cases t <;> simp [SchemaType.properties] <;> omega

theorem sizeOf_nearProperties_le (t : SchemaType) : sizeOf t.nearProperties ≤ sizeOf t := by
  cases t with
  | atomic n a => exact sizeOf_properties_le (.atomic n a)
  | bean n name ps => exact sizeOf_properties_le (.bean n name ps)
  | sequence n e =>
    have := sizeOf_properties_le e
    simp only [SchemaType.nearProperties, SchemaType.sequence.sizeOf_spec]
    omega
  | map n k v =>
    have := sizeOf_properties_le v
    simp only [SchemaType.nearProperties, SchemaType.map.sizeOf_spec]
    omega

/-- The JSON of a type begins with the properties of the bean that it is. In any other type they
come behind a step that is not open at the beginning of a way. -/
theorem shown_listings_json (t : SchemaType) : shown (t.json folders).listings =
    shown (Json.propertyListings (propertiesJson folders t.properties)) := by
  cases t with
  | atomic n a => rw [listings_json_atomic]; rfl
  | bean n name ps => rw [listings_json_bean]; rfl
  | sequence n e => rw [listings_json_sequence, shown_map_of_closed fun _ => rfl]; rfl
  | map n k v =>
    rw [listings_json_map, shown_append, shown_map_of_closed fun _ => rfl,
      shown_map_of_closed fun _ => rfl]
    rfl

/-- Behind a property one step to the elements of a sequence or the values of a map is open. -/
theorem map_entry_shown_near (name : String) {hop : Hop} (hhop : hop = .element ∨ hop = .value)
    (t : SchemaType) (depth : Nat) :
    (shown (((t.json folders).listings.map (Listing.under hop)).map
        (.under (.property name)))).map (entry depth) =
      (shown (Json.propertyListings (propertiesJson folders t.properties))).map
        (entry (depth + 1)) := by
  have hopen : ∀ l ∈ (t.json folders).listings,
      Hop.isOpen ((under (.property name) ∘ under hop) l).way = Hop.isOpen l.way := by
    intro l _
    rcases hhop with rfl | rfl <;> rfl
  have hentry (l : Listing) :
      ((l.under hop).under (.property name)).entry depth = l.entry (depth + 1) := by
    rw [entry_under_property]
    rcases hhop with rfl | rfl <;> rfl
  rw [List.map_map, shown_map hopen, shown_listings_json, List.map_map]
  exact List.map_congr_left fun l _ => hentry l

/-- Below a property the ways to the bean that its type is, or that is directly below its type, are
open, and every other way has a step that closes it. -/
theorem map_entry_shown_under_property (name : String) (t : SchemaType) (depth : Nat) :
    (shown ((t.json folders).listings.map (.under (.property name)))).map (entry depth) =
      (shown (Json.propertyListings (propertiesJson folders t.nearProperties))).map
        (entry (depth + 1)) := by
  cases t with
  | atomic n a => rw [listings_json_atomic]; rfl
  | bean n name' ps =>
    rw [listings_json_bean, shown_map fun l hl => isOpen_property_cons name hl, List.map_map]
    exact List.map_congr_left fun l _ => entry_under_property depth name l
  | sequence n e =>
    rw [listings_json_sequence]
    exact map_entry_shown_near name (.inl rfl) e depth
  | map n k v =>
    have hkey : shown (((k.json folders).listings.map (Listing.under .key)).map
        (.under (.property name))) = [] := by
      rw [List.map_map]
      exact shown_map_of_closed (fun _ => rfl) _
    rw [listings_json_map, List.map_append, shown_append, hkey, List.nil_append]
    exact map_entry_shown_near name (.inr rfl) v depth

/-- The entries that the outline has for the properties of a bean are those of the properties that
its JSON tells of and that are shown. -/
theorem outlineOf_eq (folders : Folders) (depth : Nat) : (ps : List Property) →
    outlineOf depth ps =
      (shown (Json.propertyListings (propertiesJson folders ps))).map (entry depth)
  | [] => by rw [outlineOf]; rfl
  | .mk name type required described :: ps => by
    -- The bean below the type may lie one container deeper, so the recursion goes by size.
    have hnear := sizeOf_nearProperties_le type
    rw [outlineOf, outline_eq, outlineOf_eq folders (depth + 1) type.nearProperties,
      outlineOf_eq folders depth ps, propertyListings_cons, ← map_entry_shown_under_property name,
      ← List.map_append, ← shown_append]
    rfl
termination_by ps => sizeOf ps
decreasing_by
  all_goals simp only [List.cons.sizeOf_spec, Property.mk.sizeOf_spec]; omega

end

/-! ### The two renderings -/

theorem Schema.listings_json (folders : Folders) (S : Schema) :
    (S.json folders).listings = (S.root.json folders).listings :=
  List.append_nil _

/-- The lines that an outline has for the properties in a list, below the name of a type. -/
def Listing.outlineText (typeName : String) (found : List Listing) : String :=
  String.join ((typeName :: (found.map (entry 1)).flatMap OutlineEntry.lines).map (· ++ "\n"))

/-- **The outline and the JSON of a schema tell of the same properties**, as far as the outline goes
down. Read the JSON for its properties, from the top down and each before those that lie below it.
The outline has, below the name of the top, the lines of those of them whose bean is reached by an
open way, in the same order: each indented by the number of properties on the way, with the name,
the name of the type and the mark that the JSON tells, and with the members and replacements of its
type if that is an enum type. -/
theorem Schema.outlineText_eq (S : Schema) (folders : Folders) :
    S.outlineText = Listing.outlineText S.root.name (Listing.shown (S.json folders).listings) := by
  rw [outlineText, outlineLines, outline, outlineOf_eq folders, listings_json, shown_listings_json]
  rfl

/-- The outline does not have all the properties: not those of a bean in a list of lists. -/
theorem Schema.outlineText_ne_of_nested :
    ¬ ∀ (S : Schema) (folders : Folders),
      S.outlineText = Listing.outlineText S.root.name (S.json folders).listings := by
  intro h
  let text : SchemaType := .atomic 0 { name := "Text" }
  let cell : SchemaType := .bean 1 "Cell" [.mk "label" text false none]
  let grid : SchemaType :=
    .bean 4 "Grid" [.mk "rows" (.sequence 3 (.sequence 2 cell)) false none]
  have hall := h ⟨grid, .exactly 1⟩ fun _ => .nowhere
  revert hall
  decide

end TypedManifest
