import TypedManifest.Check.Stream
import TypedManifest.Proofs.Schema.Built

/-!
# Following the suggestions

A deprecated value comes with a suggestion, another value to use instead. Here the suggestions are
followed: `follow` puts what is suggested in the place of every deprecated scalar of a document.
The keys of maps stay as they are, with all that lies within them, even where they are deprecated.

This takes away the warnings that the deprecated scalars led to, and it changes nothing else. To say
which findings are taken away, `survey` makes a check that tells of each finding whether it lies
within a key; a place alone would not do, since a key and the value under it are shown at the same
place. Then the findings in the document that follows the suggestions are those of the survey other
than the suggestions (`checkDocuments_follow`).
-/

namespace TypedManifest

open Check Yaml

/-! ### Findings within keys and elsewhere -/

/-- The finding is that a scalar is deprecated. -/
def Check.Finding.isDeprecation : Finding → Bool
  | deprecated _ => true
  | _ => false

/-- A finding, and whether it lies within a key of a map. -/
structure Check.Sighting where
  /-- What is found, and where. -/
  diagnostic : Diagnostic
  /-- Whether it lies within a key. -/
  inKey : Bool
  deriving DecidableEq, Repr

namespace Check.Sighting

/-- A finding in a part of a value, seen from the value. -/
def under (step : Step) (s : Sighting) : Sighting :=
  { s with diagnostic := s.diagnostic.under step }

/-- A suggestion is a warning that a scalar is deprecated which does not lie within a key. -/
def isSuggestion (s : Sighting) : Bool := !s.inKey && s.diagnostic.finding.isDeprecation

/-- Findings that do not lie within a key. -/
def outside (found : List Diagnostic) : List Sighting := found.map (⟨·, false⟩)

/-- Findings that lie within a key. -/
def within (found : List Diagnostic) : List Sighting := found.map (⟨·, true⟩)

/-- The findings other than suggestions. -/
def others (found : List Sighting) : List Diagnostic :=
  (found.filter fun s => !s.isSuggestion).map diagnostic

end Check.Sighting

namespace SchemaType

open Sighting

mutual

/-- Check a value, and tell of each finding whether it lies within a key. -/
def survey (σ : Store) (t : SchemaType) : Value → List Sighting
  | .sequence items =>
    match t with
    | .sequence _ element => surveyItems σ element 0 items
    | t => outside (t.wrongShape (.sequence items))
  | .mapping entries =>
    match t with
    | .bean .. => surveyProperties σ t entries ++ outside (checkPresence t entries)
    | .map _ key value => surveyEntries σ key value entries
    | t => outside (t.wrongShape (.mapping entries))
  | v => outside (checkLeaf σ t v)

/-- Survey the items of a sequence, the first of which has number `i`. -/
def surveyItems (σ : Store) (element : SchemaType) (i : Nat) : List Value → List Sighting
  | [] => []
  | v :: vs => (survey σ element v).map (.under (.item i)) ++ surveyItems σ element (i + 1) vs

/-- Survey the entries of a mapping that is to be a bean. -/
def surveyProperties (σ : Store) (bean : SchemaType) : List (Value × Value) → List Sighting
  | [] => []
  | (key, value) :: entries =>
    (match key.string? with
      | none => outside [.here .namelessProperty]
      | some name => List.map (under (.key name)) (
          match bean.property? name with
          | none => outside [.here (.unknownProperty bean.name)]
          | some p =>
            if p.required && value.isNull then outside [.here (.noValue name)]
            else survey σ p.type value))
      ++ surveyProperties σ bean entries

/-- Survey the entries of a mapping that is to be a map. -/
def surveyEntries (σ : Store) (keyType valueType : SchemaType) :
    List (Value × Value) → List Sighting
  | [] => []
  | (key, value) :: entries =>
    (within (keyType.check σ key) ++ survey σ valueType value).map (.under (keyStep key))
      ++ surveyEntries σ keyType valueType entries

end

/-! ### Following -/

/-- What is suggested instead of a scalar; any other value, and a scalar that is not deprecated, is
left as it is. -/
def followLeaf (t : SchemaType) (v : Value) : Value :=
  match v.scalarText?.bind t.deprecation? with
  | some d => .string d.replacement
  | none => v

mutual

/-- The value in which every suggestion is followed. -/
def follow (t : SchemaType) : Value → Value
  | .sequence items =>
    match t with
    | .sequence _ element => .sequence (followItems element items)
    | _ => .sequence items
  | .mapping entries =>
    match t with
    | .bean .. => .mapping (followProperties t entries)
    | .map _ _ value => .mapping (followEntries value entries)
    | _ => .mapping entries
  | v => followLeaf t v

/-- The items in which every suggestion is followed. -/
def followItems (element : SchemaType) : List Value → List Value
  | [] => []
  | v :: vs => follow element v :: followItems element vs

/-- The entries of a bean, with every suggestion followed in the values of properties. -/
def followProperties (bean : SchemaType) : List (Value × Value) → List (Value × Value)
  | [] => []
  | (key, value) :: entries =>
    (key, match key.string?.bind bean.property? with
      | some p => follow p.type value
      | none => value) :: followProperties bean entries

/-- The entries of a map, with every suggestion followed in the values. -/
def followEntries (valueType : SchemaType) : List (Value × Value) → List (Value × Value)
  | [] => []
  | (key, value) :: entries => (key, follow valueType value) :: followEntries valueType entries

end

/-! ### Part by part -/

/-- What is seen at an entry of a mapping that is to be a bean. -/
def surveyProperty (σ : Store) (bean : SchemaType) (e : Value × Value) : List Sighting :=
  match e.1.string? with
  | none => outside [.here .namelessProperty]
  | some name => List.map (under (.key name)) (
      match bean.property? name with
      | none => outside [.here (.unknownProperty bean.name)]
      | some p =>
        if p.required && e.2.isNull then outside [.here (.noValue name)]
        else p.type.survey σ e.2)

/-- What is seen at an entry of a mapping that is to be a map. -/
def surveyEntry (σ : Store) (keyType valueType : SchemaType) (e : Value × Value) :
    List Sighting :=
  (within (keyType.check σ e.1) ++ valueType.survey σ e.2).map (under (keyStep e.1))

/-- An entry of a bean, with every suggestion followed in the value of a property. -/
def followProperty (bean : SchemaType) (e : Value × Value) : Value × Value :=
  (e.1, match e.1.string?.bind bean.property? with
    | some p => p.type.follow e.2
    | none => e.2)

variable {σ : Store} {n : Nat} {t : SchemaType} {v : Value}

theorem survey_bean {name : String} {ps : List Property} {entries : List (Value × Value)} :
    (SchemaType.bean n name ps).survey σ (.mapping entries) =
      entries.flatMap ((SchemaType.bean n name ps).surveyProperty σ) ++
        outside ((SchemaType.bean n name ps).checkPresence entries) := by
  have hentries (es : List (Value × Value)) : surveyProperties σ (.bean n name ps) es =
      es.flatMap ((SchemaType.bean n name ps).surveyProperty σ) := by
    induction es with
    | nil => rw [surveyProperties]; rfl
    | cons e es ih => rw [surveyProperties, ih, List.flatMap_cons]; rfl
  rw [survey, hentries]

theorem survey_sequence {element : SchemaType} {items : List Value} :
    (SchemaType.sequence n element).survey σ (.sequence items) =
      items.zipIdx.flatMap fun (v, i) => (element.survey σ v).map (under (.item i)) := by
  have hitems (i : Nat) (vs : List Value) : surveyItems σ element i vs =
      (vs.zipIdx i).flatMap fun (v, i) => (element.survey σ v).map (under (.item i)) := by
    induction vs generalizing i with
    | nil => rw [surveyItems]; rfl
    | cons v vs ih => rw [surveyItems, ih, List.zipIdx_cons, List.flatMap_cons]
  rw [survey, hitems]

theorem survey_map {key value : SchemaType} {entries : List (Value × Value)} :
    (SchemaType.map n key value).survey σ (.mapping entries) =
      entries.flatMap (surveyEntry σ key value) := by
  have hentries (es : List (Value × Value)) : surveyEntries σ key value es =
      es.flatMap (surveyEntry σ key value) := by
    induction es with
    | nil => rw [surveyEntries]; rfl
    | cons e es ih => rw [surveyEntries, ih, List.flatMap_cons]; rfl
  rw [survey, hentries]

theorem survey_of_not_opens (h : t.opens v = false) : t.survey σ v = outside (t.check σ v) := by
  cases v with
  | sequence items =>
    cases t with
    | sequence n element => nomatch h
    | _ => rfl
  | mapping entries =>
    cases t with
    | bean n name ps => nomatch h
    | map n key value => nomatch h
    | _ => rfl
  | _ => simp only [survey, check]

theorem follow_bean {name : String} {ps : List Property} {entries : List (Value × Value)} :
    (SchemaType.bean n name ps).follow (.mapping entries) =
      .mapping (entries.map (SchemaType.bean n name ps).followProperty) := by
  have hentries (es : List (Value × Value)) : followProperties (.bean n name ps) es =
      es.map (SchemaType.bean n name ps).followProperty := by
    induction es with
    | nil => rw [followProperties]; rfl
    | cons e es ih => rw [followProperties, ih, List.map_cons]; rfl
  rw [follow, hentries]

theorem follow_sequence {element : SchemaType} {items : List Value} :
    (SchemaType.sequence n element).follow (.sequence items) =
      .sequence (items.map element.follow) := by
  have hitems (vs : List Value) : followItems element vs = vs.map element.follow := by
    induction vs with
    | nil => rw [followItems]; rfl
    | cons v vs ih => rw [followItems, ih, List.map_cons]
  rw [follow, hitems]

theorem follow_map {key value : SchemaType} {entries : List (Value × Value)} :
    (SchemaType.map n key value).follow (.mapping entries) =
      .mapping (entries.map fun e => (e.1, value.follow e.2)) := by
  have hentries (es : List (Value × Value)) : followEntries value es =
      es.map fun e => (e.1, value.follow e.2) := by
    induction es with
    | nil => rw [followEntries]; rfl
    | cons e es ih => rw [followEntries, ih, List.map_cons]
  rw [follow, hentries]

theorem follow_of_not_opens (h : t.opens v = false) : t.follow v = t.followLeaf v := by
  cases v with
  | sequence items =>
    cases t with
    | sequence n element => nomatch h
    | _ => rfl
  | mapping entries =>
    cases t with
    | bean n name ps => nomatch h
    | map n key value => nomatch h
    | _ => rfl
  | _ => simp only [follow]

/-! ### A survey is a check -/

theorem map_diagnostic_outside (found : List Diagnostic) :
    (outside found).map diagnostic = found := by
  rw [outside, List.map_map]
  exact List.map_id _

theorem map_diagnostic_within (found : List Diagnostic) :
    (within found).map diagnostic = found := by
  rw [within, List.map_map]
  exact List.map_id _

theorem map_diagnostic_under (step : Step) (found : List Sighting) :
    (found.map (under step)).map diagnostic = (found.map diagnostic).map (.under step) := by
  rw [List.map_map, List.map_map]
  rfl

/-- A survey finds what a check finds. -/
theorem map_diagnostic_survey (σ : Store) (t : SchemaType) (v : Value) :
    (t.survey σ v).map diagnostic = t.check σ v := by
  induction t, v using partsInduction with
  | whole t v h => rw [survey_of_not_opens h, map_diagnostic_outside]
  | bean n name ps entries ih =>
    have hentry : ∀ e ∈ entries, ((SchemaType.bean n name ps).surveyProperty σ e).map diagnostic =
        (SchemaType.bean n name ps).checkProperty σ e := by
      intro e he
      unfold surveyProperty checkProperty
      cases e.1.string? with
      | none => rfl
      | some key =>
        simp only [map_diagnostic_under]
        cases hp : (SchemaType.bean n name ps).property? key with
        | none => rfl
        | some p =>
          by_cases hn : (p.required && e.2.isNull) = true
          · simp only [hn, if_true]
            rfl
          · simp only [hn]
            exact congrArg _ (ih e he p (List.mem_of_find?_eq_some hp))
    rw [survey_bean, check_bean, List.map_append, List.map_flatMap, map_diagnostic_outside,
      List.flatMap_congr hentry]
  | sequence n element items ih =>
    rw [survey_sequence, check_sequence, List.map_flatMap]
    apply List.flatMap_congr
    rintro ⟨v, i⟩ hv
    rw [map_diagnostic_under, ih v (List.fst_mem_of_mem_zipIdx hv)]
  | map n key value entries ih =>
    rw [survey_map, check_map, List.map_flatMap]
    apply List.flatMap_congr
    intro e he
    rw [surveyEntry, map_diagnostic_under, List.map_append, map_diagnostic_within, (ih e he).2,
      checkEntry]

/-! ### Findings other than suggestions -/

theorem others_append (xs ys : List Sighting) : others (xs ++ ys) = others xs ++ others ys := by
  simp only [others, List.filter_append, List.map_append]

theorem others_flatMap {α : Type} (f : α → List Sighting) (xs : List α) :
    others (xs.flatMap f) = xs.flatMap fun x => others (f x) := by
  simp only [others, List.filter_flatMap, List.map_flatMap]

/-- Where a finding is does not make it a suggestion. -/
theorem others_under (step : Step) (found : List Sighting) :
    others (found.map (under step)) = (others found).map (.under step) := by
  rw [others, List.filter_map, map_diagnostic_under]
  rfl

theorem others_within (found : List Diagnostic) : others (within found) = found := by
  have hall : (within found).filter (fun s => !s.isSuggestion) = within found := by
    apply List.filter_eq_self.mpr
    intro s hs
    obtain ⟨d, -, rfl⟩ := List.mem_map.mp hs
    rfl
  rw [others, hall, map_diagnostic_within]

theorem others_outside {found : List Diagnostic}
    (h : ∀ d ∈ found, d.finding.isDeprecation = false) : others (outside found) = found := by
  have hall : (outside found).filter (fun s => !s.isSuggestion) = outside found := by
    apply List.filter_eq_self.mpr
    intro s hs
    obtain ⟨d, hd, rfl⟩ := List.mem_map.mp hs
    simp [isSuggestion, h d hd]
  rw [others, hall, map_diagnostic_outside]

/-! ### What following changes -/

/-- Every enum type in the type is one that has been built. -/
inductive EnumsBuilt : SchemaType → Prop where
  /-- An atomic type. -/
  | atomic {n : Nat} {a : Atomic} : (a.enumeration ≠ none → a.Built) → EnumsBuilt (.atomic n a)
  /-- A bean. -/
  | bean {n : Nat} {name : String} {ps : List Property} :
      (∀ p ∈ ps, EnumsBuilt p.type) → EnumsBuilt (.bean n name ps)
  /-- A sequence. -/
  | sequence {n : Nat} {element : SchemaType} :
      EnumsBuilt element → EnumsBuilt (.sequence n element)
  /-- A map. -/
  | map {n : Nat} {key value : SchemaType} :
      EnumsBuilt key → EnumsBuilt value → EnumsBuilt (.map n key value)

variable {a : Atomic} {text : String} {d : Deprecation}

theorem EnumsBuilt.built (h : EnumsBuilt (.atomic n a))
    (hd : (SchemaType.atomic n a).deprecation? text = some d) : a.Built := by
  rcases h with h | _
  apply h
  intro hnone
  simp [deprecation?, replacement?, enumeration?, hnone] at hd

theorem followLeaf_of_none (h : v.scalarText?.bind t.deprecation? = none) :
    t.followLeaf v = v := by
  rw [followLeaf, h]

/-- A value that has not the form that its type wants is left as it is. -/
theorem followLeaf_of_not_hasForm (h : t.hasForm v = false) : t.followLeaf v = v := by
  refine followLeaf_of_none ?_
  cases t with
  | atomic n a =>
    have hnone : v.scalarText? = none := by simpa [hasForm] using h
    rw [hnone]
    rfl
  | _ => cases v.scalarText? <;> rfl

theorem followLeaf_of_isNull (h : v.isNull = true) : t.followLeaf v = v := by
  refine followLeaf_of_none ?_
  cases ht : v.scalarText? with
  | none => rfl
  | some text =>
    rw [Value.isNull_of_scalarText? ht] at h
    nomatch h

/-- A suggestion is not null, and it is made only for what is not null. -/
theorem isNull_follow (t : SchemaType) (v : Value) : (t.follow v).isNull = v.isNull := by
  induction t, v using partsInduction with
  | whole t v h =>
    rw [follow_of_not_opens h, followLeaf]
    cases hd : v.scalarText?.bind t.deprecation? with
    | none => rfl
    | some d =>
      obtain ⟨text, ht, -⟩ := Option.bind_eq_some_iff.mp hd
      exact (Value.isNull_of_scalarText? ht).symm
  | bean n name ps entries => rw [follow_bean]; rfl
  | sequence n element items => rw [follow_sequence]; rfl
  | map n key value entries => rw [follow_map]; rfl

theorem check_string {s : String} :
    (SchemaType.atomic n a).check σ (.string s) = (SchemaType.atomic n a).checkText σ s :=
  check_atomic rfl

/-- A text that is not deprecated is refused or has nothing against it. -/
theorem isDeprecation_of_mem_checkText (h : (SchemaType.atomic n a).deprecation? text = none) :
    ∀ x ∈ (SchemaType.atomic n a).checkText σ text, x.finding.isDeprecation = false := by
  intro x hx
  rw [checkText_atomic, h] at hx
  cases ho : a.outcome σ text with
  | error e =>
    rw [ho] at hx
    obtain rfl := List.mem_singleton.mp hx
    rfl
  | ok u =>
    rw [ho] at hx
    nomatch hx

/-- What is found in a scalar when the suggestion is followed. -/
theorem check_followLeaf_atomic (h : EnumsBuilt (.atomic n a)) (ht : v.scalarText? = some text) :
    (SchemaType.atomic n a).check σ ((SchemaType.atomic n a).followLeaf v) =
      others (outside ((SchemaType.atomic n a).checkText σ text)) := by
  cases hd : (SchemaType.atomic n a).deprecation? text with
  | none =>
    rw [followLeaf_of_none (by rw [ht]; exact hd), check_atomic ht,
      others_outside (isDeprecation_of_mem_checkText hd)]
  | some d =>
    have hbuilt := h.built hd
    have hfollow : (SchemaType.atomic n a).followLeaf v = .string d.replacement := by
      rw [followLeaf, ht, Option.bind_some, hd]
    rw [hfollow, check_string, checkText_replacement hbuilt hd, checkText_of_deprecated hbuilt hd]
    rfl

/-- **Following the suggestions takes them away and changes nothing else.** -/
theorem check_follow (h : EnumsBuilt t) : t.check σ (t.follow v) = others (t.survey σ v) := by
  induction t, v using checkInduction with
  | null t v hn =>
    have hopens := opens_of_isNull (t := t) hn
    rw [follow_of_not_opens hopens, followLeaf_of_isNull hn, survey_of_not_opens hopens,
      check_of_isNull hn]
    rfl
  | misfit t v hn hf =>
    have hopens := opens_of_not_hasForm hf
    rw [follow_of_not_opens hopens, followLeaf_of_not_hasForm hf, survey_of_not_opens hopens,
      check_of_not_hasForm hn hf]
    rfl
  | atomic n a v text ht =>
    have hopens : (SchemaType.atomic n a).opens v = false := by cases v <;> rfl
    rw [follow_of_not_opens hopens, survey_of_not_opens hopens, check_atomic ht,
      check_followLeaf_atomic h ht]
  | bean n name ps entries ih =>
    rcases h with _ | h
    have hentry : ∀ e ∈ entries, (SchemaType.bean n name ps).checkProperty σ
        ((SchemaType.bean n name ps).followProperty e) =
        others ((SchemaType.bean n name ps).surveyProperty σ e) := by
      intro e he
      unfold surveyProperty checkProperty followProperty
      cases e.1.string? with
      | none => rfl
      | some key =>
        simp only [others_under, Option.bind_some]
        cases hp : (SchemaType.bean n name ps).property? key with
        | none => rfl
        | some p =>
          have hmem : p ∈ ps := List.mem_of_find?_eq_some hp
          simp only [isNull_follow]
          by_cases hn : (p.required && e.2.isNull) = true
          · simp only [hn, if_true]
            rfl
          · simp only [hn]
            exact congrArg _ (ih e he p hmem (h p hmem))
    -- Only values are replaced, so the same keys are there and the same ones are missing.
    have hpresence : (SchemaType.bean n name ps).checkPresence
        (entries.map (SchemaType.bean n name ps).followProperty) =
        (SchemaType.bean n name ps).checkPresence entries := by
      simp only [checkPresence, Value.hasKey, List.any_map, followProperty, Function.comp_def]
    have hmissing : ∀ x ∈ (SchemaType.bean n name ps).checkPresence entries,
        x.finding.isDeprecation = false := by
      intro x hx
      obtain ⟨p, -, rfl⟩ := List.mem_map.mp hx
      rfl
    rw [follow_bean, check_bean, survey_bean, hpresence, others_append, others_flatMap,
      others_outside hmissing, List.flatMap_map, List.flatMap_congr hentry]
  | sequence n element items ih =>
    rcases h with _ | _ | h
    rw [follow_sequence, check_sequence, survey_sequence, others_flatMap, List.zipIdx_map,
      List.flatMap_map]
    apply List.flatMap_congr
    rintro ⟨v, i⟩ hv
    rw [others_under, ← ih v (List.fst_mem_of_mem_zipIdx hv) h]
    rfl
  | map n key value entries ih =>
    rcases h with _ | _ | _ | ⟨hk, hv⟩
    rw [follow_map, check_map, survey_map, others_flatMap, List.flatMap_map]
    apply List.flatMap_congr
    intro e he
    rw [checkEntry, surveyEntry, others_under, others_append, others_within, (ih e he).2 hv]

/-- A suggestion is not deprecated, so that it is not replaced. -/
theorem follow_followLeaf (h : EnumsBuilt t) (hopens : t.opens v = false) :
    t.follow (t.followLeaf v) = t.followLeaf v := by
  cases hd : v.scalarText?.bind t.deprecation? with
  | none => rw [followLeaf_of_none hd, follow_of_not_opens hopens, followLeaf_of_none hd]
  | some d =>
    obtain ⟨text, -, hd'⟩ := Option.bind_eq_some_iff.mp hd
    cases t with
    | atomic n a =>
      have hlive := deprecation?_replacement (h.built hd') hd'
      have hfollow : (SchemaType.atomic n a).followLeaf v = .string d.replacement := by
        rw [followLeaf, hd]
      rw [hfollow, follow_of_not_opens rfl]
      exact followLeaf_of_none hlive
    | _ => nomatch hd'

/-- When every suggestion has been followed there is none left. -/
theorem follow_follow (h : EnumsBuilt t) : t.follow (t.follow v) = t.follow v := by
  induction t, v using partsInduction with
  | whole t v hopens => rw [follow_of_not_opens hopens, follow_followLeaf h hopens]
  | bean n name ps entries ih =>
    rcases h with _ | h
    rw [follow_bean, follow_bean, List.map_map]
    apply congrArg
    apply List.map_congr_left
    intro e he
    simp only [Function.comp_apply, followProperty]
    cases hp : e.1.string?.bind (SchemaType.bean n name ps).property? with
    | none => rfl
    | some p =>
      obtain ⟨key, -, hp⟩ := Option.bind_eq_some_iff.mp hp
      have hmem : p ∈ ps := List.mem_of_find?_eq_some hp
      exact congrArg _ (ih e he p hmem (h p hmem))
  | sequence n element items ih =>
    rcases h with _ | _ | h
    rw [follow_sequence, follow_sequence, List.map_map]
    exact congrArg _ (List.map_congr_left fun v hv => ih v hv h)
  | map n key value entries ih =>
    rcases h with _ | _ | _ | ⟨hk, hv⟩
    rw [follow_map, follow_map, List.map_map]
    apply congrArg
    apply List.map_congr_left
    intro e he
    exact congrArg _ ((ih e he).2 hv)

end SchemaType

namespace Schema

/-- Check documents, and tell of each finding whether it lies within a key. -/
def surveyDocuments (S : Schema) (σ : Store) (documents : List Value) : List Sighting :=
  match S.documents.check documents.length with
  | .error e => Sighting.outside [.here (.documentCount e)]
  | .ok () => documents.flatMap (S.root.survey σ)

/-- **Following the suggestions is safe.** Let every enum type of a schema be one that has been
built. A survey finds in a stream of documents what a check finds. When the suggestions are followed
in every document, just those findings of the survey that were suggestions are no longer there, and
all others are found as before, in the same order and at the same places. There is then no
suggestion left to be followed. -/
theorem checkDocuments_follow (S : Schema) (hS : S.root.EnumsBuilt) (σ : Store)
    (documents : List Value) :
    let followed := documents.map S.root.follow
    (S.surveyDocuments σ documents).map Sighting.diagnostic = S.checkDocuments σ documents ∧
      S.checkDocuments σ followed = Sighting.others (S.surveyDocuments σ documents) ∧
      followed.map S.root.follow = followed := by
  intro followed
  refine ⟨?survey, ?follow, ?again⟩
  case survey =>
    unfold surveyDocuments checkDocuments
    cases S.documents.check documents.length with
    | error e => rfl
    | ok u =>
      rw [List.map_flatMap]
      exact List.flatMap_congr fun v _ => SchemaType.map_diagnostic_survey σ S.root v
  case follow =>
    unfold surveyDocuments checkDocuments
    rw [List.length_map]
    cases S.documents.check documents.length with
    | error e => rfl
    | ok u =>
      rw [List.flatMap_map, SchemaType.others_flatMap]
      exact List.flatMap_congr fun v _ => SchemaType.check_follow hS
  case again =>
    rw [List.map_map]
    exact List.map_congr_left fun v _ => SchemaType.follow_follow hS

/-- An old mode stands under an old mode and again, under a tag, in a list beside a text that is no
mode. The key keeps its warning and the text its error; the two suggestions are gone. -/
theorem checkDocuments_follow_modes :
    let mode : SchemaType :=
      .atomic 0 (.ofEnumeration "Mode" ⟨["old", "new"], [("old", "new")]⟩)
    let S : Schema := ⟨.bean 3 "Plan" [.mk "by" (.map 1 mode mode) false none,
      .mk "all" (.sequence 2 mode) false none], .exactly 1⟩
    let plan (first : Value) (second : Value) : Value := .mapping [
      (.string "by", .mapping [(.string "old", first)]),
      (.string "all", .sequence [second, .string "odd"])]
    let warning (p : Path) : Diagnostic := ⟨p, .deprecated ⟨"old", "new"⟩⟩
    let fault : Diagnostic :=
      ⟨[.key "all", .item 1], .refused ⟨"odd", .unknownValue "Mode" ["old", "new"]⟩⟩
    let d := plan (.string "old") (.tagged "!mode" (.string "old"))
    S.checkDocuments .empty [d] = [warning [.key "by", .key "old"], warning [.key "by", .key "old"],
        warning [.key "all", .item 0], fault] ∧
      [d].map S.root.follow = [plan (.string "new") (.string "new")] ∧
      S.checkDocuments .empty ([d].map S.root.follow) =
        [warning [.key "by", .key "old"], fault] := by
  intro mode S plan warning fault d
  have hbuild : Atomic.enum "Mode" ["old", "new"] [("old", "new")] =
      .ok (.ofEnumeration "Mode" ⟨["old", "new"], [("old", "new")]⟩) := rfl
  have hmode : mode.EnumsBuilt := .atomic fun _ => .enum hbuild
  have hS : S.root.EnumsBuilt := by
    apply SchemaType.EnumsBuilt.bean
    intro p hp
    have hp : p = .mk "by" (.map 1 mode mode) false none ∨
        p = .mk "all" (.sequence 2 mode) false none := by simpa using hp
    rcases hp with rfl | rfl
    · exact .map hmode hmode
    · exact .sequence hmode
  obtain ⟨hsurvey, hfollow, -⟩ := checkDocuments_follow S hS .empty [d]
  refine ⟨?_, rfl, ?_⟩
  · rw [← hsurvey]
    decide
  · rw [hfollow]
    decide

end Schema

end TypedManifest
