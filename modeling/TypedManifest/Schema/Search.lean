import TypedManifest.Schema.Type

/-!
# Finding a type by its name

Several nodes of a graph may go by one name; the one that comes first wins, where a node comes
before everything below it, and what is below it comes in the order in which it was declared.
`firstNamed?` says this by recursion over the unfolded tree. `find?` reaches the same node without
unfolding: it keeps a stack of nodes to visit, next one first, and a list of the nodes it has seen,
and skips those when they come up again.
-/

namespace TypedManifest.SchemaType

mutual

/-- How many places the unfolded tree has. -/
def places : SchemaType → Nat
  | .atomic .. => 1
  | .bean _ _ ps => placesOf ps + 1
  | .sequence _ e => e.places + 1
  | .map _ k v => k.places + v.places + 1

/-- How many places the types of a list of properties have. -/
def placesOf : List Property → Nat
  | [] => 0
  | .mk _ t _ _ :: rest => t.places + placesOf rest

end

/-- How many places the types of a list have. -/
def placesIn : List SchemaType → Nat
  | [] => 0
  | t :: ts => t.places + placesIn ts

theorem places_pos (t : SchemaType) : 0 < t.places := by
  cases t <;> simp [places]

theorem placesOf_eq (ps : List Property) : placesOf ps = placesIn (ps.map Property.type) := by
  induction ps with
  | nil => rfl
  | cons p ps ih =>
    obtain ⟨name, t, required, described⟩ := p
    rw [placesOf, List.map_cons, placesIn, ih]
    rfl

theorem placesIn_children (t : SchemaType) : placesIn t.children + 1 = t.places := by
  cases t with
  | atomic n a => rfl
  | bean n name ps => simp [children, places, placesOf_eq]
  | sequence n e => simp [children, places, placesIn]
  | map n k v => simp [children, places, placesIn]

theorem placesIn_append (ts us : List SchemaType) :
    placesIn (ts ++ us) = placesIn ts + placesIn us := by
  induction ts with
  | nil => simp [placesIn]
  | cons t ts ih => simp [placesIn, ih, Nat.add_assoc]

/-- Visit the stack of nodes, skipping those seen already, until one has the name. -/
def findFrom? (name : String) (seen : List Nat) : List SchemaType → Option SchemaType
  | [] => none
  | t :: stack =>
    if seen.contains t.node then findFrom? name seen stack
    else if t.name = name then some t
    else findFrom? name (t.node :: seen) (t.children ++ stack)
termination_by stack => placesIn stack
decreasing_by
  · have := places_pos t
    simp [placesIn]; omega
  · have := placesIn_children t
    rw [placesIn_append]; simp [placesIn] at *; omega

/-- The first node of a graph with the name. -/
def find? (t : SchemaType) (name : String) : Option SchemaType := findFrom? name [] [t]

mutual

/-- The first place of the unfolded tree with the name. -/
def firstNamed? (name : String) (t : SchemaType) : Option SchemaType :=
  if t.name = name then some t
  else match t with
    | .atomic .. => none
    | .bean _ _ ps => firstNamedOf? name ps
    | .sequence _ e => firstNamed? name e
    | .map _ k v => (firstNamed? name k).or (firstNamed? name v)

/-- The first place with the name below a list of properties. -/
def firstNamedOf? (name : String) : List Property → Option SchemaType
  | [] => none
  | .mk _ t _ _ :: rest => (firstNamed? name t).or (firstNamedOf? name rest)

end

end TypedManifest.SchemaType
