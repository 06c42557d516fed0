import Mathlib.Data.List.Forall2
import TypedManifest.Check.Stream
import TypedManifest.Proofs.Check.Parts

/-!
# Types that check alike

Two types that differ only in what their atomic parts look at find nearly the same in a value. Here
two checks are set side by side, each with a type and a store of its own. `Carries` says of a
relation between findings that it carries over from the parts of a value to the whole, and `Like`
says of two types that they have one form and that what their atomic parts find is so related. Then
what the types find in any value is so related (`check_like`).

Equality is the first relation to think of: it gives types that cannot be told apart by a check.
-/

namespace TypedManifest

open Check Yaml

/-! ### Relations between findings -/

/-- A relation between findings that carries over from the parts of a value to the whole. -/
structure Check.Carries (R : List Diagnostic → List Diagnostic → Prop) : Prop where
  /-- The same findings are related. -/
  refl : ∀ xs, R xs xs
  /-- What is found in one part after the other is related when it is in each part. -/
  append : ∀ {xs ys xs' ys'}, R xs ys → R xs' ys' → R (xs ++ xs') (ys ++ ys')
  /-- Findings are related seen from the whole when they are seen from the part. -/
  under : ∀ {xs ys} step, R xs ys → R (xs.map (.under step)) (ys.map (.under step))

namespace Check.Carries

variable {R : List Diagnostic → List Diagnostic → Prop}

theorem eq : Carries Eq where
  refl _ := rfl
  append := by rintro _ _ _ _ rfl rfl; rfl
  under := by rintro _ _ _ rfl; rfl

theorem flatMap (hR : Carries R) {α : Type} {f g : α → List Diagnostic} {xs : List α}
    (h : ∀ x ∈ xs, R (f x) (g x)) : R (xs.flatMap f) (xs.flatMap g) := by
  induction xs with
  | nil => exact hR.refl _
  | cons x xs ih =>
    rw [List.forall_mem_cons] at h
    exact hR.append h.1 (ih h.2)

end Check.Carries

namespace SchemaType

/-! ### Types of one form -/

mutual

/-- The types have one form, with the same names, and what their atomic parts find in a text is
related. -/
inductive Like (R : List Diagnostic → List Diagnostic → Prop) (σ τ : Store) :
    SchemaType → SchemaType → Prop where
  /-- Atomic types of one name. -/
  | atomic {n m : Nat} {a b : Atomic} : a.name = b.name →
      (∀ text, R ((SchemaType.atomic n a).checkText σ text)
        ((SchemaType.atomic m b).checkText τ text)) →
      Like R σ τ (.atomic n a) (.atomic m b)
  /-- Beans of one name, property by property. -/
  | bean {n m : Nat} {name : String} {ps qs : List Property} :
      List.Forall₂ (LikeProperty R σ τ) ps qs → Like R σ τ (.bean n name ps) (.bean m name qs)
  /-- Sequences. -/
  | sequence {n m : Nat} {t u : SchemaType} :
      Like R σ τ t u → Like R σ τ (.sequence n t) (.sequence m u)
  /-- Maps. -/
  | map {n m : Nat} {k v k' v' : SchemaType} :
      Like R σ τ k k' → Like R σ τ v v' → Like R σ τ (.map n k v) (.map m k' v')

/-- The properties have one name, both or neither of them are required, and their types are alike.
The descriptions may differ. -/
inductive LikeProperty (R : List Diagnostic → List Diagnostic → Prop) (σ τ : Store) :
    Property → Property → Prop where
  /-- Properties of one name. -/
  | mk {name : String} {required : Bool} {t u : SchemaType} {d e : Option DescriptionRef} :
      Like R σ τ t u → LikeProperty R σ τ (.mk name t required d) (.mk name u required e)

end

variable {R : List Diagnostic → List Diagnostic → Prop} {σ τ : Store} {t u : SchemaType}

theorem Like.name_eq : {t u : SchemaType} → Like R σ τ t u → t.name = u.name
  | .atomic .., _, .atomic h _ => h
  | .bean .., _, .bean _ => rfl
  | .sequence .., _, .sequence h => by rw [name, name, h.name_eq]
  | .map .., _, .map hk hv => by rw [name, name, hk.name_eq, hv.name_eq]

theorem Like.hasForm_eq (h : Like R σ τ t u) (v : Value) : t.hasForm v = u.hasForm v := by
  cases h <;> cases v <;> rfl

/-- Atomic types of one name and one enumeration are alike when they refuse the same texts for the
same reasons. What they make of the texts that they accept does not matter. -/
theorem Like.of_outcome (hR : Carries R) {n m : Nat} {a b : Atomic} (hn : a.name = b.name)
    (he : a.enumeration = b.enumeration) (ho : ∀ text, a.outcome σ text = b.outcome τ text) :
    Like R σ τ (.atomic n a) (.atomic m b) := by
  refine .atomic hn fun text => ?_
  rw [checkText_atomic, checkText_atomic, ho, deprecation?_congr he]
  exact hR.refl _

/-! ### Beans -/

variable {ps qs : List Property}

theorem find?_like (h : List.Forall₂ (LikeProperty R σ τ) ps qs) (name : String) :
    Option.Rel (LikeProperty R σ τ) (ps.find? (·.name = name)) (qs.find? (·.name = name)) := by
  induction h with
  | nil => exact .none
  | @cons p q ps qs hpq _ ih =>
    obtain @⟨name', required, t, u, d, e, htu⟩ := hpq
    by_cases hn : name' = name
    · simpa [Property.name, hn] using Option.Rel.some (.mk htu)
    · simpa [Property.name, hn] using ih

theorem checkPresence_like {n m : Nat} {name : String}
    (h : List.Forall₂ (LikeProperty R σ τ) ps qs) (entries : List (Value × Value)) :
    (SchemaType.bean n name ps).checkPresence entries =
      (SchemaType.bean m name qs).checkPresence entries := by
  simp only [checkPresence, requiredProperties, properties]
  induction h with
  | nil => rfl
  | @cons p q ps qs hpq _ ih =>
    obtain @⟨name', required, t, u, d, e, htu⟩ := hpq
    by_cases hm : required = true ∧ Value.hasKey name' entries = false
    · obtain ⟨rfl, hk⟩ := hm
      simpa [List.filter_cons, Property.required, Property.name, hk] using ih
    · cases required
      · simpa [List.filter_cons, Property.required] using ih
      · have hk : Value.hasKey name' entries = true := by simpa using hm
        simpa [List.filter_cons, Property.required, Property.name, hk] using ih

/-- What two beans find at an entry is related when what their properties find in its value is. -/
theorem checkProperty_like (hR : Carries R) {n m : Nat} {name : String} {e : Value × Value}
    (h : List.Forall₂ (LikeProperty R σ τ) ps qs)
    (ih : ∀ p ∈ ps, ∀ u, Like R σ τ p.type u → R (p.type.check σ e.2) (u.check τ e.2)) :
    R ((SchemaType.bean n name ps).checkProperty σ e)
      ((SchemaType.bean m name qs).checkProperty τ e) := by
  unfold checkProperty
  cases e.1.string? with
  | none => exact hR.refl _
  | some key =>
    refine hR.under _ ?_
    have hfind := find?_like h key
    simp only [property?, properties, SchemaType.name]
    generalize hp : ps.find? (·.name = key) = p?, qs.find? (·.name = key) = q? at hfind
    obtain @⟨p, q, hpq⟩ | _ := hfind
    · obtain @⟨name', required, t, u, d, d', htu⟩ := hpq
      by_cases hn : (required && e.2.isNull) = true
      · simp only [Property.required, hn, if_true]
        exact hR.refl _
      · simp only [Property.required, hn]
        exact ih _ (List.mem_of_find?_eq_some hp) u htu
    · exact hR.refl _

/-! ### Whole checks -/

/-- **Types that are alike find in a value what is related.** -/
theorem check_like (hR : Carries R) {v : Value} (h : Like R σ τ t u) :
    R (t.check σ v) (u.check τ v) := by
  induction t, v using checkInduction generalizing u with
  | null t v hn =>
    rw [check_of_isNull hn, check_of_isNull hn]
    exact hR.refl _
  | misfit t v hn hf =>
    rw [check_of_not_hasForm hn hf, check_of_not_hasForm hn (h.hasForm_eq v ▸ hf), wrongShape,
      wrongShape, h.name_eq]
    exact hR.refl _
  | atomic n a v text ht =>
    obtain ⟨-, h⟩ := h
    rw [check_atomic ht, check_atomic ht]
    exact h text
  | bean n name ps entries ih =>
    obtain _ | h := h
    rw [check_bean, check_bean, checkPresence_like h]
    exact hR.append (hR.flatMap fun e he => checkProperty_like hR h fun p hp u => ih e he p hp)
      (hR.refl _)
  | sequence n element items ih =>
    obtain _ | _ | h := h
    rw [check_sequence, check_sequence]
    exact hR.flatMap fun (v, i) hv => hR.under _ (ih v (List.fst_mem_of_mem_zipIdx hv) h)
  | map n key value entries ih =>
    obtain _ | _ | _ | ⟨hk, hv⟩ := h
    rw [check_map, check_map]
    exact hR.flatMap fun e he => hR.under _ (hR.append ((ih e he).1 hk) ((ih e he).2 hv))

end SchemaType

/-- Schemas with types that are alike find in a stream what is related. -/
theorem Schema.checkDocuments_like {R : List Diagnostic → List Diagnostic → Prop} {σ τ : Store}
    {S T : Schema} (hR : Carries R) (hd : S.documents = T.documents)
    (h : SchemaType.Like R σ τ S.root T.root) (documents : List Value) :
    R (S.checkDocuments σ documents) (T.checkDocuments τ documents) := by
  unfold checkDocuments
  rw [hd]
  cases T.documents.check documents.length with
  | error e => exact hR.refl _
  | ok u => exact hR.flatMap fun v _ => SchemaType.check_like hR h

end TypedManifest
