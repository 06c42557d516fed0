import Mathlib.Data.List.Count
import Mathlib.Data.List.Nodup
import TypedManifest.Proofs.Check.Locality

/-!
# Required properties

A required property may be missing, and it may be there without a value. The two are reported in
different passes over a mapping, and the passes look at its keys differently. An entry is led to a
property by the text of its key, under tags or not, and is reported when the property is required
and the value is null. A property is reported as missing when no key is its name, and a key under a
tag is not the name of anything.

So the reports are counted one pass at a time. No entry reports a property of the bean itself as
missing (`count_missing_checkProperty`), and presence reports nothing else
(`count_missing_checkPresence`); an entry reports a property as empty exactly when it leads to it
and is null (`count_noValue_checkProperty`). Where keys that lead to a property stand under no tag
the two passes agree (`count_check_of_required`); a tag sets them apart
(`missing_although_present`).

The counts are those of places. Where places are written as texts two of them may look alike, but
no other finding looks like one of these (`below_eq_missing_iff`, `below_eq_noValue_iff`).
-/

namespace TypedManifest

open Check Yaml

theorem Check.Diagnostic.beneath_injective (place : Path) :
    Function.Injective (Diagnostic.beneath place) := by
  rintro ⟨p, f⟩ ⟨q, g⟩ h
  simp only [Diagnostic.beneath, Diagnostic.mk.injEq, List.append_cancel_left_eq] at h
  obtain ⟨rfl, rfl⟩ := h
  rfl

theorem Check.Diagnostic.under_injective (step : Step) :
    Function.Injective (Diagnostic.under step) := by
  rw [← Diagnostic.beneath_singleton]
  exact beneath_injective [step]

theorem count_map_of_eq_iff {α β : Type} [DecidableEq α] [DecidableEq β] {xs : List α} {f : α → β}
    {x : α} {y : β} (h : ∀ a ∈ xs, f a = y ↔ a = x) : (xs.map f).count y = xs.count x := by
  rw [List.count, List.count, List.countP_map]
  refine List.countP_congr fun a ha => ?_
  simpa using h a ha

/-! ### Keys -/

namespace Yaml.Value

/-- Where keys differ, what holds of entries with one key only holds of its entry, or of none. -/
theorem countP_of_nodup_keys {entries : List (Value × Value)} {e : Value × Value}
    {q : Value × Value → Bool} (hn : (entries.map Prod.fst).Nodup) (he : e ∈ entries)
    (hq : ∀ e' ∈ entries, q e' = true → e'.1 = e.1) :
    entries.countP q = if q e then 1 else 0 := by
  obtain ⟨before, after, rfl⟩ := List.append_of_mem he
  have hothers : ∀ e' ∈ before ++ after, e'.1 ≠ e.1 := by
    have hn : (e :: (before ++ after)).map Prod.fst |>.Nodup :=
      (List.perm_middle.map Prod.fst).nodup_iff.mp hn
    intro e' he' hkey
    exact (List.nodup_cons.mp hn).1 (hkey ▸ List.mem_map_of_mem he')
  have hzero : (before ++ after).countP q = 0 := by
    rw [List.countP_eq_zero]
    intro e' he' hqe'
    exact hothers e' he' (hq e' (List.perm_middle.symm.subset (List.mem_cons_of_mem e he')) hqe')
  rw [List.perm_middle.countP_eq, List.countP_cons, hzero, Nat.zero_add]

end Yaml.Value

namespace SchemaType

variable {σ : Store} {n : Nat} {t : SchemaType} {v : Value} {e : Value × Value}

/-! ### One entry -/

/-- What is found at an entry: that its key is no text, that there is no such property, that a
required property has no value, or something in the value of a property. -/
theorem mem_checkProperty {d : Diagnostic} (hd : d ∈ t.checkProperty σ e) :
    d = .here .namelessProperty ∨ (∃ k, d = .under (.key k) (.here (.unknownProperty t.name))) ∨
      ∃ p ∈ t.properties, ∃ d', d = .under (.key p.name) d' ∧
        (d' = .here (.noValue p.name) ∨ d' ∈ p.type.check σ e.2) := by
  unfold checkProperty at hd
  cases hk : e.1.string? with
  | none => exact .inl (by simpa [hk] using hd)
  | some k =>
    simp only [hk] at hd
    obtain ⟨d', hd', rfl⟩ := List.mem_map.mp hd
    refine .inr ?_
    cases hp : t.property? k with
    | none =>
      rw [hp] at hd'
      exact .inl ⟨k, congrArg _ (List.mem_singleton.mp hd')⟩
    | some p =>
      have hname : p.name = k := by simpa using List.find?_some hp
      rw [hp] at hd'
      subst hname
      refine .inr ⟨p, List.mem_of_find?_eq_some hp, d', rfl, ?_⟩
      dsimp only at hd'
      split at hd'
      · exact .inl (List.mem_singleton.mp hd')
      · exact .inr hd'

/-- No entry has to do with what is missing beside it. -/
theorem count_missing_checkProperty (x : String) :
    (t.checkProperty σ e).count (.here (.missingProperty x)) = 0 := by
  refine List.count_eq_zero.mpr fun hd => ?_
  obtain h | ⟨k, h⟩ | ⟨p, -, d', h, -⟩ := mem_checkProperty hd <;> nomatch h

/-- That a value is required is said at the key of its property. -/
theorem path_of_noValue {x : String} {d : Diagnostic} (hd : d ∈ t.check σ v)
    (hf : d.finding = .noValue x) : ∃ place : Path, d.path = place ++ [.key x] := by
  induction t, v using checkInduction generalizing d with
  | null t v hn => rw [check_of_isNull hn] at hd; nomatch hd
  | misfit t v hn hform =>
    rw [check_of_not_hasForm hn hform] at hd
    obtain rfl := List.mem_singleton.mp hd
    nomatch hf
  | atomic n a v text ht =>
    rw [check_atomic ht, checkText_atomic] at hd
    cases ho : a.outcome σ text with
    | error fault =>
      rw [ho] at hd
      obtain rfl := List.mem_singleton.mp hd
      nomatch hf
    | ok _ =>
      rw [ho] at hd
      obtain ⟨_, -, rfl⟩ := Option.map_eq_some_iff.mp (Option.mem_toList.mp hd)
      nomatch hf
  | bean n name ps entries ih =>
    rw [check_bean, List.mem_append, List.mem_flatMap] at hd
    obtain ⟨e, he, hd⟩ | hd := hd
    · obtain rfl | ⟨k, rfl⟩ | ⟨p, hp, d', rfl, rfl | hd'⟩ := mem_checkProperty hd
      · nomatch hf
      · nomatch hf
      · cases hf
        exact ⟨[], rfl⟩
      · obtain ⟨place, hplace⟩ := ih e he p hp hd' hf
        exact ⟨.key p.name :: place, congrArg _ hplace⟩
    · obtain ⟨p, -, rfl⟩ := List.mem_map.mp hd
      nomatch hf
  | sequence n element items ih =>
    rw [check_sequence, List.mem_flatMap] at hd
    obtain ⟨⟨v, i⟩, hv, hd⟩ := hd
    obtain ⟨d', hd', rfl⟩ := List.mem_map.mp hd
    obtain ⟨place, hplace⟩ := ih v (List.fst_mem_of_mem_zipIdx hv) hd' hf
    exact ⟨.item i :: place, congrArg _ hplace⟩
  | map n key value entries ih =>
    rw [check_map, List.mem_flatMap] at hd
    obtain ⟨e, he, hd⟩ := hd
    obtain ⟨d', hd', rfl⟩ := List.mem_map.mp hd
    have hpart : ∃ place : Path, d'.path = place ++ [.key x] :=
      (List.mem_append.mp hd').elim ((ih e he).1 · hf) ((ih e he).2 · hf)
    obtain ⟨place, hplace⟩ := hpart
    exact ⟨keyStep e.1 :: place, congrArg _ hplace⟩

/-- So it is not for the check of the value to say. -/
theorem count_noValue_check (x : String) : (t.check σ v).count (.here (.noValue x)) = 0 := by
  refine List.count_eq_zero.mpr fun hd => ?_
  obtain ⟨place, hplace⟩ := path_of_noValue hd rfl
  simp [Diagnostic.here] at hplace

variable {p : Property}

/-- An entry reports a required property as empty when it leads to the property and is null. -/
theorem count_noValue_checkProperty (hp : t.property? p.name = some p) (hr : p.required = true) :
    (t.checkProperty σ e).count ⟨[.key p.name], .noValue p.name⟩ =
      if e.1.string? = some p.name ∧ e.2.isNull = true then 1 else 0 := by
  have hunder : (⟨[.key p.name], .noValue p.name⟩ : Diagnostic) =
      .under (.key p.name) (.here (.noValue p.name)) := rfl
  unfold checkProperty
  by_cases hk : e.1.string? = some p.name
  · simp only [hk, hp, hr, true_and, Bool.true_and, hunder]
    rw [List.count_map_of_injective _ _ (Diagnostic.under_injective _)]
    by_cases hnull : e.2.isNull = true
    · rw [if_pos hnull, if_pos hnull, List.count_singleton_self]
    · rw [if_neg hnull, if_neg hnull, count_noValue_check]
  · rw [if_neg fun h => hk h.1, List.count_eq_zero]
    cases hs : e.1.string? with
    | none => simp [Diagnostic.here]
    | some name =>
      have hne : name ≠ p.name := fun h => hk (h ▸ hs)
      simp [Diagnostic.under, hne]

/-! ### A mapping -/

variable {name : String} {ps : List Property} {entries : List (Value × Value)}

theorem count_missing_checkPresence (hn : (ps.map Property.name).Nodup) (hp : p ∈ ps)
    (hr : p.required = true) :
    ((SchemaType.bean n name ps).checkPresence entries).count (.here (.missingProperty p.name)) =
      if Value.hasKey p.name entries then 0 else 1 := by
  let absent := ps.filter (·.required) |>.filter (!Value.hasKey ·.name entries)
  have hnodup : (absent.map Property.name).Nodup :=
    hn.sublist ((List.filter_sublist.trans List.filter_sublist).map Property.name)
  have hmem : p.name ∈ absent.map Property.name ↔ Value.hasKey p.name entries = false := by
    constructor
    · intro h
      obtain ⟨q, hq, hname⟩ := List.mem_map.mp h
      simpa [hname] using (List.mem_filter.mp hq).2
    · intro h
      exact List.mem_map_of_mem (by simp [absent, hp, hr, h])
  have hinj : Function.Injective fun x => Diagnostic.here (.missingProperty x) := fun x y h => by
    simpa [Diagnostic.here] using h
  have hmap : (SchemaType.bean n name ps).checkPresence entries =
      (absent.map Property.name).map fun x => .here (.missingProperty x) := by
    rw [List.map_map]
    rfl
  rw [hmap, List.count_map_of_injective _ _ hinj, hnodup.count]
  cases hk : Value.hasKey p.name entries <;> simp [hmem, hk]

/-- A required property is reported as missing once, when no key is its name. -/
theorem count_missing_check_bean (hn : (ps.map Property.name).Nodup) (hp : p ∈ ps)
    (hr : p.required = true) :
    ((SchemaType.bean n name ps).check σ (.mapping entries)).count
      (.here (.missingProperty p.name)) = if Value.hasKey p.name entries then 0 else 1 := by
  have hentries : (entries.flatMap ((SchemaType.bean n name ps).checkProperty σ)).count
      (.here (.missingProperty p.name)) = 0 := by
    induction entries with
    | nil => rfl
    | cons e entries ih =>
      rw [List.flatMap_cons, List.count_append, count_missing_checkProperty, ih]
  rw [check_bean, List.count_append, hentries, Nat.zero_add, count_missing_checkPresence hn hp hr]

/-- A required property is reported as empty once for each entry that leads to it and is null. -/
theorem count_noValue_check_bean (hn : (ps.map Property.name).Nodup) (hp : p ∈ ps)
    (hr : p.required = true) :
    ((SchemaType.bean n name ps).check σ (.mapping entries)).count
      ⟨[.key p.name], .noValue p.name⟩ =
        entries.countP fun e => e.1.string? = some p.name ∧ e.2.isNull = true := by
  have hfind : (SchemaType.bean n name ps).property? p.name = some p := find?_name_eq_some hn hp
  have hpresence : ((SchemaType.bean n name ps).checkPresence entries).count
      ⟨[.key p.name], .noValue p.name⟩ = 0 := by
    refine List.count_eq_zero.mpr fun hd => ?_
    obtain ⟨q, -, h⟩ := List.mem_map.mp hd
    nomatch h
  rw [check_bean, List.count_append, hpresence, Nat.add_zero]
  clear hpresence
  induction entries with
  | nil => rfl
  | cons e entries ih =>
    rw [List.flatMap_cons, List.count_append, count_noValue_checkProperty hfind hr, ih,
      List.countP_cons, Nat.add_comm]
    simp only [decide_eq_true_iff]

/-! ### The texts of the places -/

/-- What is found in a bean is found at the bean itself or below one of its properties, unless it is
that there is no such property. -/
theorem path_of_mem_check_bean {d : Diagnostic}
    (hd : d ∈ (SchemaType.bean n name ps).check σ (.mapping entries))
    (hf : d.finding ≠ .unknownProperty name) :
    d.path = [] ∨ ∃ q ∈ ps, ∃ place, d.path = .key q.name :: place := by
  rw [check_bean, List.mem_append, List.mem_flatMap] at hd
  obtain ⟨e, -, hd⟩ | hd := hd
  · obtain rfl | ⟨k, rfl⟩ | ⟨q, hq, d', rfl, -⟩ := mem_checkProperty hd
    · exact .inl rfl
    · exact absurd rfl hf
    · exact .inr ⟨q, hq, d'.path, rfl⟩
  · obtain ⟨q, -, rfl⟩ := List.mem_map.mp hd
    exact .inl rfl

section

variable {base x : String} {d : Diagnostic} (hbase : base = "" → ∀ q ∈ ps, q.name ≠ "")
  (hd : d ∈ (SchemaType.bean n name ps).check σ (.mapping entries))

include hbase hd

/-- Below the bean every place has another text than the bean itself. -/
theorem eq_nil_of_foldl_after_eq {place : Path} (hf : d.finding ≠ .unknownProperty name)
    (hplace : place <+: d.path) (h : place.foldl Step.after base = base) :
    place = [] := by
  cases place with
  | nil => rfl
  | cons step place =>
    obtain ⟨rest, hrest⟩ := hplace
    refine absurd h (Path.foldl_after_cons_ne ?_ place)
    rintro htop rfl
    obtain hnil | ⟨q, hq, _, hcons⟩ := path_of_mem_check_bean hd hf
    · rw [← hrest] at hnil
      nomatch hnil
    · rw [← hrest, List.cons_append, List.cons.injEq, Step.key.injEq] at hcons
      exact hbase htop q hq hcons.1.symm

theorem below_eq_missing_iff : Report.below base d = ⟨base, .missingProperty x⟩ ↔
    d = .here (.missingProperty x) := by
  constructor
  · intro h
    obtain ⟨path, finding⟩ := d
    simp only [Report.below, Report.mk.injEq] at h
    obtain ⟨htext, rfl⟩ := h
    obtain rfl := eq_nil_of_foldl_after_eq hbase hd (by simp) List.prefix_rfl htext
    rfl
  · rintro rfl
    rfl

/-- The last step is the same, so the places that it starts from have one text. -/
theorem below_eq_noValue_iff : Report.below base d = ⟨(Step.key x).after base, .noValue x⟩ ↔
    d = ⟨[.key x], .noValue x⟩ := by
  constructor
  · intro h
    obtain ⟨path, finding⟩ := d
    simp only [Report.below, Report.mk.injEq] at h
    obtain ⟨htext, rfl⟩ := h
    obtain ⟨place, rfl⟩ : ∃ place : Path, path = place ++ [.key x] := path_of_noValue hd rfl
    rw [List.foldl_append, List.foldl_cons, List.foldl_nil] at htext
    have hplace : place.foldl Step.after base = base := Step.after_injective _ htext
    obtain rfl := eq_nil_of_foldl_after_eq hbase hd (by simp) (List.prefix_append ..) hplace
    rfl
  · rintro rfl
    rfl

end

/-- The pass reports as missing what the check does, under the text of the bean. -/
theorem count_missing_walk_bean {base : String} (hbase : base = "" → ∀ q ∈ ps, q.name ≠ "")
    (hn : (ps.map Property.name).Nodup) (hp : p ∈ ps) (hr : p.required = true) :
    (walk σ (.bean n name ps) base [] (.mapping entries)).count ⟨base, .missingProperty p.name⟩ =
      if Value.hasKey p.name entries then 0 else 1 := by
  rw [walk_eq, List.nil_append, count_map_of_eq_iff fun d hd => below_eq_missing_iff hbase hd,
    count_missing_check_bean hn hp hr]

/-- The pass reports as empty what the check does, under the text of the property. -/
theorem count_noValue_walk_bean {base : String} (hbase : base = "" → ∀ q ∈ ps, q.name ≠ "")
    (hn : (ps.map Property.name).Nodup) (hp : p ∈ ps) (hr : p.required = true) :
    (walk σ (.bean n name ps) base [] (.mapping entries)).count
      ⟨(Step.key p.name).after base, .noValue p.name⟩ =
        entries.countP fun e => e.1.string? = some p.name ∧ e.2.isNull = true := by
  rw [walk_eq, List.nil_append, count_map_of_eq_iff fun d hd => below_eq_noValue_iff hbase hd,
    count_noValue_check_bean hn hp hr]

/-! ### What is reported of a required property -/

/-- It is not so that each required property is accounted for once: one whose key stands under a tag
is there and reported as missing. -/
theorem missing_although_present :
    ¬ ∀ (σ : Store) (n : Nat) (name : String) (ps : List Property)
      (entries : List (Value × Value)) (place : Path), (ps.map Property.name).Nodup →
      (entries.map Prod.fst).Nodup → ∀ p ∈ ps, p.required = true →
      let found : List Diagnostic :=
        ((SchemaType.bean n name ps).check σ (.mapping entries)).map (.beneath place)
      let missing := found.count ⟨place, .missingProperty p.name⟩
      let empty := found.count ⟨place ++ [.key p.name], .noValue p.name⟩
      ((∀ e ∈ entries, e.1.string? ≠ some p.name) → missing = 1) ∧
      ∀ e ∈ entries, e.1.string? = some p.name →
        (∀ e' ∈ entries, e'.1.string? = some p.name → e' = e) →
        missing = 0 ∧ empty = if e.2.isNull then 1 else 0 := by
  intro h
  let title : Property := .mk "title" (.atomic 0 { name := "Title" }) true none
  let e : Value × Value := (.tagged "x" (.string "title"), .string "Emma")
  have hfound := (h .empty 1 "Book" [title] [e] [] (by decide) (List.nodup_singleton _) title
    List.mem_cons_self rfl).2 e List.mem_cons_self rfl fun e' he' _ => List.mem_singleton.mp he'
  exact absurd hfound.1 (by decide)

/-- **What is reported of a required property.** It is reported as missing once, unless a key that
stands under no tag is its name; and it is reported as empty once for each entry whose key is its
name, under tags or not, and whose value is null. So when no key has that text it is missing, and
that is reported once. Where keys differ and none with that text stands under a tag, each required
property is accounted for exactly once: a key that is its name keeps it from missing, and it is
reported as empty, once, exactly when the value is null. A check in one pass, which writes places as
texts, reports the property as often. At the top of a document that takes a bean without a property
of the empty name; such a property would have the text of the bean. -/
theorem count_check_of_required (σ : Store) (n : Nat) (name : String) (ps : List Property)
    (hn : (ps.map Property.name).Nodup) {p : Property} (hp : p ∈ ps) (hr : p.required = true)
    (entries : List (Value × Value)) (place : Path) :
    let found : List Diagnostic :=
      ((SchemaType.bean n name ps).check σ (.mapping entries)).map (.beneath place)
    let missing := found.count ⟨place, .missingProperty p.name⟩
    let empty := found.count ⟨place ++ [.key p.name], .noValue p.name⟩
    (missing = if .string p.name ∈ entries.map Prod.fst then 0 else 1) ∧
    (empty = entries.countP fun e => e.1.string? = some p.name ∧ e.2.isNull = true) ∧
    ((∀ e ∈ entries, e.1.string? ≠ some p.name) → missing = 1 ∧ empty = 0) ∧
    ((entries.map Prod.fst).Nodup →
      (∀ e ∈ entries, e.1.string? = some p.name → e.1 = .string p.name) →
      ∀ v, (.string p.name, v) ∈ entries → missing = 0 ∧ empty = if v.isNull then 1 else 0) ∧
    ∀ base, (base = "" → ∀ q ∈ ps, q.name ≠ "") →
      let written : List Report := walk σ (.bean n name ps) base [] (.mapping entries)
      written.count ⟨base, .missingProperty p.name⟩ = missing ∧
        written.count ⟨(Step.key p.name).after base, .noValue p.name⟩ = empty := by
  intro found missing empty
  have hhere : (⟨place, .missingProperty p.name⟩ : Diagnostic) =
      .beneath place (.here (.missingProperty p.name)) := by
    simp [Diagnostic.beneath, Diagnostic.here]
  have hmissing : missing = if Value.hasKey p.name entries then 0 else 1 := by
    simp only [missing, found, hhere]
    rw [List.count_map_of_injective _ _ (Diagnostic.beneath_injective place),
      count_missing_check_bean hn hp hr]
  have hthere : (⟨place ++ [.key p.name], .noValue p.name⟩ : Diagnostic) =
      .beneath place ⟨[.key p.name], .noValue p.name⟩ := rfl
  have hempty : empty = entries.countP fun e => e.1.string? = some p.name ∧ e.2.isNull = true := by
    simp only [empty, found, hthere]
    rw [List.count_map_of_injective _ _ (Diagnostic.beneath_injective place),
      count_noValue_check_bean hn hp hr]
  refine ⟨?missing, hempty, fun hno => ⟨?absent, ?notEmpty⟩,
    fun hkeys htags v hv => ⟨?present, ?null⟩, fun base hbase => ⟨?writtenMissing, ?writtenEmpty⟩⟩
  case missing => simp only [hmissing, Value.hasKey_eq_true_iff]
  case absent =>
    refine hmissing.trans (if_neg fun hk => ?_)
    obtain ⟨e, he, hkey⟩ := List.mem_map.mp (Value.hasKey_eq_true_iff.mp hk)
    exact hno e he (by rw [hkey]; rfl)
  case notEmpty =>
    rw [hempty, List.countP_eq_zero]
    exact fun e he h => hno e he (of_decide_eq_true h).1
  case present =>
    exact hmissing.trans (if_pos (Value.hasKey_eq_true_iff.mpr (List.mem_map_of_mem hv)))
  case null =>
    rw [hempty, Value.countP_of_nodup_keys hkeys hv
      fun e he h => htags e he (of_decide_eq_true h).1]
    simp [Value.string?]
  case writtenMissing => rw [hmissing, count_missing_walk_bean hbase hn hp hr]
  case writtenEmpty => rw [hempty, count_noValue_walk_bean hbase hn hp hr]

/-- A book without a title, and one whose title is null; in a list, and as a document. -/
theorem count_check_of_required_title :
    let title : Property := .mk "title" (.atomic 0 { name := "Title" }) true none
    let book : SchemaType := .bean 1 "Book" [title]
    let found (entries : List (Value × Value)) : List Diagnostic :=
      (book.check .empty (.mapping entries)).map (.beneath [.item 4])
    let written (base : String) (entries : List (Value × Value)) : List Report :=
      walk .empty book base [] (.mapping entries)
    (found []).count ⟨[.item 4], .missingProperty "title"⟩ = 1 ∧
      (found [(.string "title", .null)]).count ⟨[.item 4], .missingProperty "title"⟩ = 0 ∧
      (found [(.string "title", .null)]).count ⟨[.item 4, .key "title"], .noValue "title"⟩ = 1 ∧
      (written "[4]" []).count ⟨"[4]", .missingProperty "title"⟩ = 1 ∧
      (written "" [(.string "title", .null)]).count ⟨"title", .noValue "title"⟩ = 1 := by
  intro title book found written
  have hlaw := count_check_of_required .empty 1 "Book" [title] (by decide) (p := title)
    List.mem_cons_self rfl
  obtain ⟨-, -, habsent, -, hwritten⟩ := hlaw [] [.item 4]
  obtain ⟨-, -, -, hnull, hwrittenNull⟩ := hlaw [(.string "title", .null)] [.item 4]
  have hno : (found []).count ⟨[.item 4], .missingProperty "title"⟩ = 1 := (habsent nofun).1
  obtain ⟨hthere, hempty⟩ := hnull (by decide)
    (fun e he _ => by obtain rfl := List.mem_singleton.mp he; rfl) .null List.mem_cons_self
  exact ⟨hno, hthere, hempty, (hwritten "[4]" (by decide)).1.trans hno,
    (hwrittenNull "" fun _ => by decide).2.trans hempty⟩

end SchemaType

end TypedManifest
