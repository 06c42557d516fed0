import Mathlib.Data.List.Nodup
import TypedManifest.Manifest
import TypedManifest.Schema.Search

/-!
# The search by name goes in pre-order

A search for a type by its name keeps a stack of nodes to visit and a list of the numbers of those
that it has seen, and skips a node that comes up again. The unfolded tree knows nothing of numbers:
in *pre-order* (`preorder`) each of its places comes before those below it, and these come in the
order in which they were declared. The search finds the first place of the pre-order that has the
name (`find?_eq_firstNamed?`), whatever nodes are shared, as long as a number stands for one node
only (`Numbered`).

That a skipped node hides nothing is the invariant of the loop (`Inv`): when a seen node comes up
again below an entry of the stack, the name can occur below the node only if it occurs already
below the entries in front. Nothing is in front of the top of the stack, so below a seen node on top
the name does not occur at all. The schema of manifests, in which many nodes are shared, is one of
those to which this applies (`numbered_toplevel`).
-/

namespace TypedManifest.SchemaType

/-! ### The unfolded tree -/

mutual

/-- The places of the unfolded tree, each before those below it. -/
def preorder : SchemaType → List SchemaType
  | .atomic n a => [.atomic n a]
  | .bean n name ps => .bean n name ps :: preorderOf ps
  | .sequence n e => .sequence n e :: e.preorder
  | .map n k v => .map n k v :: (k.preorder ++ v.preorder)

/-- The places below a list of properties. -/
def preorderOf : List Property → List SchemaType
  | [] => []
  | .mk _ t _ _ :: rest => t.preorder ++ preorderOf rest

end

/-- The second type is the first one or lies below it. -/
inductive Reaches : SchemaType → SchemaType → Prop where
  /-- Every type reaches itself. -/
  | refl {t : SchemaType} : Reaches t t
  /-- A type reaches what the types directly below it reach. -/
  | step {t c u : SchemaType} : c ∈ t.children → Reaches c u → Reaches t u

variable {name : String} {t u c : SchemaType} {ts us : List SchemaType}

theorem preorderOf_eq (ps : List Property) :
    preorderOf ps = (ps.map Property.type).flatMap preorder := by
  induction ps with
  | nil => rfl
  | cons p ps ih =>
    obtain ⟨name, t, required, described⟩ := p
    rw [preorderOf, ih]
    rfl

theorem preorder_eq (t : SchemaType) : t.preorder = t :: t.children.flatMap preorder := by
  cases t with
  | atomic n a => rfl
  | bean n name ps => rw [preorder, preorderOf_eq]; rfl
  | sequence n e => simp [preorder, children]
  | map n k v => simp [preorder, children]

theorem mem_preorder_self : t ∈ t.preorder := by
  rw [preorder_eq]
  exact List.mem_cons_self

theorem mem_preorder_iff : u ∈ t.preorder ↔ u = t ∨ ∃ c ∈ t.children, u ∈ c.preorder := by
  rw [preorder_eq, List.mem_cons, List.mem_flatMap]

theorem places_le_placesIn (h : t ∈ ts) : t.places ≤ placesIn ts := by
  obtain ⟨before, after, rfl⟩ := List.append_of_mem h
  rw [placesIn_append, placesIn]
  omega

theorem places_lt_of_mem_children (h : c ∈ t.children) : c.places < t.places := by
  have hle := places_le_placesIn h
  have heq := placesIn_children t
  omega

/-- The induction from the types directly below a type to the type itself. -/
@[elab_as_elim]
theorem childrenInduction {P : SchemaType → Prop} (step : ∀ t, (∀ c ∈ t.children, P c) → P t)
    (t : SchemaType) : P t :=
  step t fun c hc =>
    have := places_lt_of_mem_children hc
    childrenInduction step c
termination_by t.places

theorem places_le_of_mem_preorder (h : u ∈ t.preorder) : u.places ≤ t.places := by
  induction t using childrenInduction with
  | step t ih =>
    obtain rfl | ⟨c, hc, hu⟩ := mem_preorder_iff.mp h
    · exact Nat.le_refl _
    · exact Nat.le_trans (ih c hc hu) (Nat.le_of_lt (places_lt_of_mem_children hc))

/-- A graph has no cycle: a type does not lie below itself. -/
theorem not_mem_preorder_child (hc : c ∈ t.children) : t ∉ c.preorder := by
  intro h
  have hle := places_le_of_mem_preorder h
  have hlt := places_lt_of_mem_children hc
  omega

theorem mem_preorder_iff_reaches : u ∈ t.preorder ↔ t.Reaches u := by
  constructor
  · intro h
    induction t using childrenInduction with
    | step t ih =>
      obtain rfl | ⟨c, hc, hu⟩ := mem_preorder_iff.mp h
      · exact .refl
      · exact .step hc (ih c hc hu)
  · intro h
    induction h with
    | refl => exact mem_preorder_self
    | step hc _ ih => exact mem_preorder_iff.mpr (.inr ⟨_, hc, ih⟩)

theorem firstNamedOf?_eq_find? {ps : List Property} (h : ∀ c ∈ ps.map Property.type,
    firstNamed? name c = c.preorder.find? (·.name = name)) :
    firstNamedOf? name ps = (preorderOf ps).find? (·.name = name) := by
  induction ps with
  | nil => rfl
  | cons p ps ih =>
    obtain ⟨_, t, _, _⟩ := p
    obtain ⟨ht, hps⟩ := List.forall_mem_cons.mp h
    rw [firstNamedOf?, preorderOf, List.find?_append, ih hps]
    exact congrArg (Option.or · _) ht

/-- The recursive search finds the first place of the pre-order that has the name. -/
theorem firstNamed?_eq_find? (name : String) (t : SchemaType) :
    firstNamed? name t = t.preorder.find? (·.name = name) := by
  induction t using childrenInduction with
  | step t ih =>
    unfold firstNamed?
    rw [preorder_eq]
    by_cases hname : t.name = name
    · rw [if_pos hname, List.find?_cons_of_pos (by simpa using hname)]
    · rw [if_neg hname, List.find?_cons_of_neg (by simpa using hname)]
      cases t with
      | atomic n a => rfl
      | bean n _ ps =>
        rw [children, ← preorderOf_eq]
        exact firstNamedOf?_eq_find? ih
      | sequence n e =>
        rw [children, List.flatMap_singleton]
        exact ih e List.mem_cons_self
      | map n k v =>
        have hk := ih k List.mem_cons_self
        have hv := ih v (List.mem_cons_of_mem k List.mem_cons_self)
        rw [children, List.flatMap_cons, List.flatMap_singleton, List.find?_append, ← hk, ← hv]

/-! ### The invariant of the loop -/

/-- One of the types has the name, or a place below one of them. -/
def Occurs (name : String) (ts : List SchemaType) : Prop :=
  ∃ u ∈ ts.flatMap preorder, u.name = name

theorem occurs_append : Occurs name (ts ++ us) ↔ Occurs name ts ∨ Occurs name us := by
  simp only [Occurs, List.flatMap_append, List.mem_append, or_and_right, exists_or]

theorem occurs_cons : Occurs name (t :: ts) ↔ Occurs name [t] ∨ Occurs name ts :=
  @occurs_append name [t] ts

/-- Where a name occurs, it is that of the type itself or occurs directly below. -/
theorem occurs_singleton : Occurs name [t] ↔ t.name = name ∨ Occurs name t.children := by
  simp only [Occurs, List.flatMap_singleton, preorder_eq t, List.mem_cons, exists_eq_or_imp]

theorem find?_eq_none_of_not_occurs (h : ¬ Occurs name [t]) :
    t.preorder.find? (·.name = name) = none := by
  rw [List.find?_eq_none]
  intro u hu hname
  exact h ⟨u, by rwa [List.flatMap_singleton], of_decide_eq_true hname⟩

/-- A number stands for one node only. -/
def Numbered (places : List SchemaType) : Prop :=
  ∀ u ∈ places, ∀ v ∈ places, u.node = v.node → u = v

theorem Numbered.subset {xs ys : List SchemaType} (h : Numbered ys) (hsub : xs ⊆ ys) :
    Numbered xs :=
  fun u hu v hv => h u (hsub hu) v (hsub hv)

/-- What holds of the seen numbers and the stack, the top first, whenever the loop begins anew. -/
structure Inv (name : String) (seen : List Nat) (stack : List SchemaType) : Prop where
  /-- A number stands for one node only. -/
  numbered : Numbered (stack.flatMap preorder)
  /-- If the name occurs below a seen node that comes up again, it occurs in front already. -/
  settled : ∀ earlier t later, stack = earlier ++ t :: later → ∀ u ∈ t.preorder, u.node ∈ seen →
    Occurs name [u] → Occurs name earlier

variable {seen : List Nat} {stack : List SchemaType}

theorem inv_start (h : Numbered t.preorder) : Inv name [] [t] where
  numbered := by simpa using h
  settled := nofun

/-- Below a seen node on top of the stack the name does not occur. -/
theorem Inv.not_occurs (h : Inv name seen (t :: stack)) (hu : u ∈ t.preorder)
    (hseen : u.node ∈ seen) : ¬ Occurs name [u] := by
  intro hoccurs
  obtain ⟨w, hw, -⟩ := h.settled [] t stack rfl u hu hseen hoccurs
  nomatch hw

/-- A seen node may be skipped. -/
theorem Inv.skip (h : Inv name seen (t :: stack)) (hseen : t.node ∈ seen) :
    Inv name seen stack where
  numbered := h.numbered.subset (List.subset_append_right ..)
  settled := by
    rintro earlier v later rfl u hu huseen hoccurs
    have hin := h.settled (t :: earlier) v later rfl u hu huseen hoccurs
    exact (occurs_cons.mp hin).resolve_left (h.not_occurs mem_preorder_self hseen)

theorem Inv.eq_of_node_eq (h : Inv name seen (t :: stack)) {v : SchemaType}
    (hv : v ∈ t :: stack) (hu : u ∈ v.preorder) (hnode : u.node = t.node) : u = t :=
  h.numbered u (List.mem_flatMap.mpr ⟨v, hv, hu⟩) t
    (List.mem_flatMap.mpr ⟨t, List.mem_cons_self, mem_preorder_self⟩) hnode

/-- A list put together from two is cut at an item of the first one or within the second one. -/
theorem mem_or_exists_of_append_eq {α : Type} {xs ys earlier later : List α} {x : α}
    (h : xs ++ ys = earlier ++ x :: later) :
    x ∈ xs ∨ ∃ rest, earlier = xs ++ rest ∧ ys = rest ++ x :: later := by
  obtain ⟨rest, hearlier, hys⟩ | ⟨rest, hxs, hlater⟩ := List.append_eq_append_iff.mp h
  · exact .inr ⟨rest, hearlier, hys⟩
  · cases rest with
    | nil => exact .inr ⟨[], by simp [hxs], hlater.symm⟩
    | cons y rest =>
      obtain ⟨rfl, -⟩ := List.cons.inj hlater
      exact .inl (by simp [hxs])

/-- In the place of a node that has not the name come the types directly below it. -/
theorem Inv.visit (h : Inv name seen (t :: stack)) (hname : t.name ≠ name) :
    Inv name (t.node :: seen) (t.children ++ stack) where
  numbered := by
    refine h.numbered.subset ?_
    rw [List.flatMap_append, List.flatMap_cons, preorder_eq t]
    exact List.subset_cons_self ..
  settled := by
    intro earlier v later hsplit u hu hseen hoccurs
    obtain hchild | ⟨rest, rfl, hstack⟩ := mem_or_exists_of_append_eq hsplit
    · -- Below the node there is no seen node with the name, and not the node itself.
      have hbelow : u ∈ t.preorder := mem_preorder_iff.mpr (.inr ⟨v, hchild, hu⟩)
      obtain hnode | hseen := List.mem_cons.mp hseen
      · obtain rfl := h.eq_of_node_eq List.mem_cons_self hbelow hnode
        exact absurd hu (not_mem_preorder_child hchild)
      · exact absurd hoccurs (h.not_occurs hbelow hseen)
    · -- What was in front of the entry is still there, but for the node itself.
      have hkeep (hin : Occurs name (t :: rest)) : Occurs name (t.children ++ rest) := by
        rw [occurs_cons, occurs_singleton, or_iff_right hname] at hin
        exact occurs_append.mpr hin
      have hsplit : t :: stack = (t :: rest) ++ v :: later := by rw [hstack]; rfl
      obtain hnode | hseen := List.mem_cons.mp hseen
      · have hv : v ∈ t :: stack := by simp [hstack]
        obtain rfl := h.eq_of_node_eq hv hu hnode
        exact hkeep (occurs_cons.mpr (.inl hoccurs))
      · exact hkeep (h.settled _ v later hsplit u hu hseen hoccurs)

/-! ### Whole runs -/

/-- **The loop goes in pre-order** over what is below its stack, as if it had seen nothing. -/
theorem findFrom?_eq_find? (h : Inv name seen stack) :
    findFrom? name seen stack = (stack.flatMap preorder).find? (·.name = name) := by
  fun_induction findFrom? name seen stack with
  | case1 => rfl
  | case2 seen t stack hseen ih =>
    have hmem : t.node ∈ seen := List.contains_iff_mem.mp hseen
    have hnone := find?_eq_none_of_not_occurs (h.not_occurs mem_preorder_self hmem)
    rw [ih (h.skip hmem), List.flatMap_cons, List.find?_append, hnone, Option.none_or]
  | case3 seen t stack hseen hname =>
    rw [List.flatMap_cons, preorder_eq, List.cons_append, List.find?_cons_of_pos (by simpa)]
  | case4 seen t stack hseen hname ih =>
    rw [ih (h.visit hname), List.flatMap_append, List.flatMap_cons, preorder_eq, List.cons_append,
      List.find?_cons_of_neg (by simpa)]

/-- Types whose parts are among them hold all that one of them reaches. -/
theorem preorder_subset_of_closed (hclosed : ∀ u ∈ ts, u.children ⊆ ts) (ht : t ∈ ts) :
    t.preorder ⊆ ts := by
  induction t using childrenInduction with
  | step t ih =>
    intro u hu
    obtain rfl | ⟨c, hc, hu⟩ := mem_preorder_iff.mp hu
    · exact ht
    · exact ih c hc (hclosed t ht hc) hu

/-- A list of the nodes, no two of one number, shows that a number stands for one node only. -/
theorem numbered_of_closed (ts : List SchemaType) (hclosed : ∀ u ∈ ts, u.children ⊆ ts)
    (ht : t ∈ ts) (hn : (ts.map node).Nodup) : Numbered t.preorder := by
  have hts : Numbered ts := fun u hu v hv hnode => List.inj_on_of_nodup_map hn hu hv hnode
  exact hts.subset (preorder_subset_of_closed hclosed ht)

/-- The search by name finds the first place of the pre-order that has the name. -/
theorem find?_eq_find?_preorder (h : Numbered t.preorder) :
    t.find? name = t.preorder.find? (·.name = name) := by
  rw [find?, findFrom?_eq_find? (inv_start h), List.flatMap_singleton]

/-- **The search by name finds the first place of the pre-order that has the name**, which is what
the recursion over the unfolded tree finds, whatever nodes are shared. It finds nothing exactly when
the type reaches no type of that name. -/
theorem find?_eq_firstNamed? (t : SchemaType) (name : String) (h : Numbered t.preorder) :
    t.find? name = t.firstNamed? name ∧
      t.firstNamed? name = t.preorder.find? (·.name = name) ∧
      (t.find? name = none ↔ ∀ u, t.Reaches u → u.name ≠ name) := by
  have hfind : t.find? name = t.preorder.find? (·.name = name) := find?_eq_find?_preorder h
  refine ⟨hfind.trans (firstNamed?_eq_find? name t).symm, firstNamed?_eq_find? name t, ?_⟩
  simp only [hfind, List.find?_eq_none, decide_eq_true_eq, mem_preorder_iff_reaches, ne_eq]

/-- A bean that is seen in a list first and comes up again, in front of two types of one name. -/
theorem find?_eq_firstNamed?_shared :
    let text : SchemaType := .atomic 0 { name := "Text" }
    let shared : SchemaType := .bean 1 "Shared" [.mk "text" text false none]
    let first : SchemaType := .bean 3 "Target" [.mk "shared" shared true none]
    let second : SchemaType := .atomic 4 { name := "Target" }
    let root : SchemaType := .bean 5 "Root" [.mk "list" (.sequence 2 shared) false none,
      .mk "shared" shared false none, .mk "first" first false none, .mk "second" second true none]
    Numbered root.preorder ∧ root.find? "Target" = some first ∧
      ∀ u, root.Reaches u → u.name ≠ "Text[]" := by
  intro text shared first second root
  have hnumbered : Numbered root.preorder :=
    numbered_of_closed [text, shared, .sequence 2 shared, first, second, root]
      (by simp [root, first, second, shared, text, children, Property.type]) (by simp) (by decide)
  obtain ⟨hfound, -, -⟩ := find?_eq_firstNamed? root "Target" hnumbered
  obtain ⟨hmissing, -, hnone⟩ := find?_eq_firstNamed? root "Text[]" hnumbered
  exact ⟨hnumbered, hfound.trans rfl, hnone.mp (hmissing.trans rfl)⟩

end TypedManifest.SchemaType

namespace TypedManifest.Manifest.Settings

open SchemaType

variable (s : Settings)

/-! ### The schema of manifests -/

/-- The types of the schema, in the order of their numbers. -/
def types : List SchemaType := [
  s.path, s.buildpack, s.domain, s.service, s.boolean, s.filledText, s.anyText, s.routeText,
  s.memory, s.healthCheck, s.instanceCount, s.seconds, s.anyTexts, s.domainList, s.environment,
  s.route, s.routes, s.serviceList, s.application, s.applications, s.toplevel]

theorem node_types : s.types.map node = (List.range nodeCount).map (s.firstNode + ·) := rfl

theorem map_children_types : s.types.map children = List.replicate 12 [] ++ [
    [s.anyText], [s.domain], [s.anyText, s.anyText], [s.routeText], [s.route], [s.service],
    s.properties.map Property.type, [s.application],
    s.applications :: s.anyText :: s.shared.map Property.type] := rfl

theorem map_type_properties_subset : s.properties.map Property.type ⊆ s.types := by
  simp only [properties, property, List.map_cons, List.map_nil, Property.type, types,
    List.cons_subset, List.nil_subset, List.mem_cons, true_or, or_true, and_true]

/-- What is directly below a type of the schema is a type of the schema. -/
theorem children_subset_types : ∀ t ∈ s.types, t.children ⊆ s.types := by
  have hshared : s.shared.map Property.type ⊆ s.types :=
    fun t ht => s.map_type_properties_subset ((List.filter_sublist.map Property.type).subset ht)
  suffices h : ∀ ts ∈ s.types.map children, ts ⊆ s.types from List.forall_mem_map.mp h
  rw [map_children_types, List.forall_mem_append]
  constructor
  · intro ts hts
    rw [List.eq_of_mem_replicate hts]
    exact List.nil_subset _
  · simp only [List.forall_mem_cons, List.cons_subset, List.nil_subset, and_true,
      s.map_type_properties_subset, hshared, true_and]
    simp only [types, List.mem_cons, true_or, or_true, true_and]
    nofun

/-- In the schema of manifests a number stands for one node only. -/
theorem numbered_toplevel : Numbered s.toplevel.preorder := by
  refine numbered_of_closed s.types s.children_subset_types (List.mem_of_getElem? (i := 20) rfl) ?_
  rw [node_types]
  exact List.nodup_range.map fun _ _ => Nat.add_left_cancel

theorem find?_toplevel (name : String) :
    s.toplevel.find? name = s.toplevel.preorder.find? (·.name = name) :=
  find?_eq_find?_preorder s.numbered_toplevel

end TypedManifest.Manifest.Settings
