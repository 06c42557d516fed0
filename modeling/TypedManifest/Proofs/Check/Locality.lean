import TypedManifest.Proofs.Check.Pass

/-!
# Findings are local

What is found in a document is found part by part, and nothing that is wrong with one part hides
what is wrong with another. To say so, a document is taken apart at one of its values: `Context` is
a document with a hole, made of frames, each the surroundings of an item or of the value of an
entry. What is asked of the value in the hole is its `Role`: the type that it is checked against,
its place, and the required property, if any, whose value it is. There is none when a key on the way
leads to no property, or when a container on the way does not suit its type.

What is found before the hole and behind it does not depend on what the hole is filled with, and
what is found in the hole is what its role says (`walk_fill`).
-/

namespace TypedManifest

open Check Yaml

/-! ### Documents with a hole -/

namespace Yaml

/-- The surroundings of a part of a container: the tags that the container stands under, outermost
first, and what stands beside the part. -/
inductive Frame where
  /-- Of an item of a sequence. -/
  | item (tags : List String) (before after : List Value)
  /-- Of the value of an entry of a mapping. -/
  | entry (tags : List String) (before : List (Value × Value)) (key : Value)
      (after : List (Value × Value))

/-- The container with a value put in. -/
def Frame.fill (w : Value) : Frame → Value
  | item tags before after => tags.foldr .tagged (.sequence (before ++ w :: after))
  | entry tags before key after => tags.foldr .tagged (.mapping (before ++ (key, w) :: after))

/-- A document with a hole at one of its values, as the frames around the hole, outermost first. The
hole does not lie within a key. -/
abbrev Context := List Frame

/-- The document with a value put in the hole. -/
def Context.fill (c : Context) (w : Value) : Value := c.foldr (fun f v => f.fill v) w

theorem Context.fill_cons (f : Frame) (c : Context) (w : Value) :
    Context.fill (f :: c) w = f.fill (Context.fill c w) := rfl

theorem isNull_foldr_tagged (tags : List String) (v : Value) :
    (tags.foldr Value.tagged v).isNull = v.isNull := by
  induction tags with
  | nil => rfl
  | cons tag tags ih => exact ih

/-- A container is not null. -/
theorem Frame.isNull_fill (f : Frame) (w : Value) : (f.fill w).isNull = false := by
  cases f with
  | item tags before after => exact isNull_foldr_tagged ..
  | entry tags before key after => exact isNull_foldr_tagged ..

end Yaml

/-- A finding in a part at a place, seen from the whole. -/
def Check.Diagnostic.beneath (place : Path) (d : Diagnostic) : Diagnostic :=
  { d with path := place ++ d.path }

theorem Check.Diagnostic.beneath_singleton (step : Step) : beneath [step] = under step := rfl

namespace SchemaType

/-! ### What is asked of a part -/

/-- What is asked of a part of a value. -/
structure Role where
  /-- The type that the part is checked against. -/
  type : SchemaType
  /-- The place of the part in the value. -/
  path : Path
  /-- The name of the property whose value the part is, if that property is required. -/
  requiredAs : Option String

/-- What is asked of a value as a whole. -/
def role (t : SchemaType) : Role := ⟨t, [], none⟩

/-- What a bean asks of the value of an entry: nothing, if the key names no property. -/
def entryRole? (bean : SchemaType) (key : Value) : Option Role :=
  key.string?.bind fun k => (bean.property? k).map fun p =>
    ⟨p.type, [.key k], if p.required then some k else none⟩

/-- What a type asks of a part of a container: nothing, if the container has not the form that the
type wants or stands under a tag. -/
def partRole? : SchemaType → Frame → Option Role
  | .sequence _ element, .item [] before _ => some ⟨element, [.item before.length], none⟩
  | .map _ _ value, .entry [] _ key _ => some ⟨value, [keyStep key], none⟩
  | .bean n name ps, .entry [] _ key _ => (SchemaType.bean n name ps).entryRole? key
  | _, _ => none

/-- What is asked of a part of a part. -/
def Role.partRole? (r : Role) (f : Frame) : Option Role :=
  (r.type.partRole? f).map fun s => { s with path := r.path ++ s.path }

/-- What a type asks of the value in the hole of a document. -/
def holeRole? (t : SchemaType) (c : Context) : Option Role := c.foldlM Role.partRole? t.role

/-- What the pass writes down of a value in a role: that a required value is missing, or else what
it writes down of the value alone, at its own place. -/
def Role.walk (σ : Store) (base : String) (r : Role) (w : Value) : List Report :=
  let place := r.path.foldl Step.after base
  match r.requiredAs, w.isNull with
  | some name, true => [⟨place, .noValue name⟩]
  | _, _ => r.type.walk σ place [] w

/-! ### One frame -/

variable {σ : Store}

/-- What is found in a value in a role, seen from the whole. -/
def Role.check (σ : Store) (r : Role) (w : Value) : List Diagnostic :=
  match r.requiredAs, w.isNull with
  | some name, true => [⟨r.path, .noValue name⟩]
  | _, _ => (r.type.check σ w).map (.beneath r.path)

theorem Role.check_of_isNull_eq_false {r : Role} {w : Value} (h : w.isNull = false) :
    r.check σ w = (r.type.check σ w).map (.beneath r.path) := by
  unfold check
  rw [h]
  cases r.requiredAs <;> rfl

theorem Role.walk_eq (base : String) (r : Role) (w : Value) :
    r.walk σ base w = (r.check σ w).map (.below base) := by
  have hbelow (d : Diagnostic) : Report.below base (d.beneath r.path) =
      .below (r.path.foldl Step.after base) d := by
    rw [Report.below, Diagnostic.beneath, List.foldl_append]
    rfl
  unfold walk check
  split
  · rfl
  · rw [SchemaType.walk_eq, List.nil_append, List.map_map]
    exact List.map_congr_left fun d _ => (hbelow d).symm

theorem Role.check_prepend (p : Path) (r : Role) (w : Value) :
    Role.check σ { r with path := p ++ r.path } w = (r.check σ w).map (.beneath p) := by
  have hbeneath (ds : List Diagnostic) :
      ds.map (Diagnostic.beneath (p ++ r.path)) =
        (ds.map (Diagnostic.beneath r.path)).map (.beneath p) := by
    simp [Diagnostic.beneath, List.append_assoc]
  unfold check
  cases r.requiredAs with
  | none => exact hbeneath _
  | some name =>
    cases w.isNull with
    | true => rfl
    | false => exact hbeneath _

theorem scalarText?_foldr_tagged (tags : List String) (v : Value) :
    (tags.foldr Value.tagged v).scalarText? = v.scalarText? := by
  induction tags with
  | nil => rfl
  | cons tag tags ih => exact ih

theorem scalarText?_fill (f : Frame) (w : Value) : (f.fill w).scalarText? = none := by
  cases f with
  | item tags before after => exact scalarText?_foldr_tagged ..
  | entry tags before key after => exact scalarText?_foldr_tagged ..

theorem shape_fill (f : Frame) (w w' : Value) : (f.fill w).shape = (f.fill w').shape := by
  cases f with
  | item tags before after => cases tags <;> rfl
  | entry tags before key after => cases tags <;> rfl

/-- Of a container of the wrong form only the form is reported, whatever it holds. -/
theorem exists_check_fill_eq_of_not_hasForm {t : SchemaType} {f : Frame}
    (h : ∀ w, t.hasForm (f.fill w) = false) :
    ∃ earlier later, ∀ w, t.check σ (f.fill w) = earlier ++ [] ++ later := by
  refine ⟨t.wrongShape (f.fill .null), [], fun w => ?_⟩
  rw [check_of_not_hasForm (f.isNull_fill w) (h w), wrongShape, shape_fill f w .null]
  rfl

theorem exists_check_item_eq (n : Nat) (element : SchemaType) (before after : List Value) :
    ∃ earlier later, ∀ w,
      (SchemaType.sequence n element).check σ (.sequence (before ++ w :: after)) =
        earlier ++ Role.check σ ⟨element, [.item before.length], none⟩ w ++ later := by
  refine ⟨before.zipIdx.flatMap fun e => (element.check σ e.1).map (.under (.item e.2)),
    (after.zipIdx (before.length + 1)).flatMap fun e =>
      (element.check σ e.1).map (.under (.item e.2)), fun w => ?_⟩
  rw [check_sequence, List.zipIdx_append, List.flatMap_append, List.zipIdx_cons,
    List.flatMap_cons, Nat.zero_add, List.append_assoc]
  rfl

/-- The key of an entry is checked before its value, at the same place. -/
theorem exists_check_map_entry_eq (n : Nat) (keyType valueType : SchemaType) (key : Value)
    (before after : List (Value × Value)) :
    ∃ earlier later, ∀ w,
      (SchemaType.map n keyType valueType).check σ (.mapping (before ++ (key, w) :: after)) =
        earlier ++ Role.check σ ⟨valueType, [keyStep key], none⟩ w ++ later := by
  refine ⟨before.flatMap (checkEntry σ keyType valueType) ++
      (keyType.check σ key).map (.under (keyStep key)),
    after.flatMap (checkEntry σ keyType valueType), fun w => ?_⟩
  rw [check_map, List.flatMap_append, List.flatMap_cons, checkEntry, List.map_append]
  simp only [List.append_assoc]
  rfl

/-- What is found at one entry of a bean. -/
theorem exists_checkProperty_eq (bean : SchemaType) (key : Value) : ∃ earlier later, ∀ w,
    bean.checkProperty σ (key, w) =
      earlier ++ (bean.entryRole? key).elim [] (·.check σ w) ++ later := by
  unfold entryRole? checkProperty
  cases hk : key.string? with
  | none => exact ⟨[.here .namelessProperty], [], fun w => by simp only [hk]; rfl⟩
  | some k =>
    cases hp : bean.property? k with
    | none =>
      refine ⟨[.under (.key k) (.here (.unknownProperty bean.name))], [], fun w => ?_⟩
      simp [hk, hp]
    | some p =>
      refine ⟨[], [], fun w => ?_⟩
      cases hr : p.required with
      | false => simp [hk, hp, hr, Role.check, Diagnostic.beneath_singleton]
      | true =>
        cases hn : w.isNull with
        | false => simp [hk, hp, hr, hn, Role.check, Diagnostic.beneath_singleton]
        | true => simp [hk, hp, hr, hn, Role.check, Diagnostic.under, Diagnostic.here]

/-- The keys alone tell which properties are missing. -/
theorem checkPresence_fill (bean : SchemaType) (before after : List (Value × Value))
    (key w w' : Value) : bean.checkPresence (before ++ (key, w) :: after) =
      bean.checkPresence (before ++ (key, w') :: after) := by
  simp only [checkPresence, Value.hasKey, List.any_append, List.any_cons]

theorem exists_check_bean_entry_eq (n : Nat) (name : String) (ps : List Property) (key : Value)
    (before after : List (Value × Value)) :
    ∃ earlier later, ∀ w,
      (SchemaType.bean n name ps).check σ (.mapping (before ++ (key, w) :: after)) =
        earlier ++ ((SchemaType.bean n name ps).entryRole? key).elim [] (·.check σ w) ++ later := by
  obtain ⟨earlier, later, h⟩ := exists_checkProperty_eq (.bean n name ps) key
  refine ⟨before.flatMap ((SchemaType.bean n name ps).checkProperty σ) ++ earlier,
    later ++ after.flatMap ((SchemaType.bean n name ps).checkProperty σ) ++
      (SchemaType.bean n name ps).checkPresence (before ++ (key, .null) :: after), fun w => ?_⟩
  rw [check_bean, checkPresence_fill _ _ _ _ w .null, List.flatMap_append, List.flatMap_cons, h]
  simp only [List.append_assoc]

/-- What is found in a container, as far as it depends on the part, is what the role of the part
says. -/
theorem exists_check_fill_eq (t : SchemaType) (f : Frame) : ∃ earlier later, ∀ w,
    t.check σ (f.fill w) = earlier ++ (t.partRole? f).elim [] (·.check σ w) ++ later := by
  unfold partRole?
  split
  · exact exists_check_item_eq ..
  · exact exists_check_map_entry_eq ..
  · exact exists_check_bean_entry_eq ..
  · next hsequence hmap hbean =>
    -- No type asks anything of a part of this container, so it has not the form that `t` wants.
    apply exists_check_fill_eq_of_not_hasForm
    intro w
    cases t with
    | atomic n a =>
      rw [hasForm, scalarText?_fill]
      rfl
    | bean n name ps =>
      cases f with
      | item tags before after => cases tags <;> rfl
      | entry tags before key after =>
        cases tags with
        | nil => exact (hbean _ _ _ _ _ _ rfl rfl).elim
        | cons tag tags => rfl
    | sequence n element =>
      cases f with
      | item tags before after =>
        cases tags with
        | nil => exact (hsequence _ _ _ _ rfl rfl).elim
        | cons tag tags => rfl
      | entry tags before key after => cases tags <;> rfl
    | map n key value =>
      cases f with
      | item tags before after => cases tags <;> rfl
      | entry tags before key after =>
        cases tags with
        | nil => exact (hmap _ _ _ _ _ _ rfl rfl).elim
        | cons tag tags => rfl

/-! ### All frames -/

/-- What is found in a document, as far as it depends on what fills the hole. -/
theorem Role.exists_check_fill_eq (r : Role) (c : Context) : ∃ earlier later, ∀ w,
    r.check σ (c.fill w) =
      earlier ++ (c.foldlM Role.partRole? r).elim [] (·.check σ w) ++ later := by
  induction c generalizing r with
  | nil => exact ⟨[], [], fun w => (List.append_nil _).symm⟩
  | cons f c ih =>
    obtain ⟨earlier, later, hframe⟩ := SchemaType.exists_check_fill_eq (σ := σ) r.type f
    have houter (w : Value) : r.check σ (f.fill (Context.fill c w)) =
        earlier.map (.beneath r.path) ++
          (r.partRole? f).elim [] (·.check σ (Context.fill c w)) ++
            later.map (.beneath r.path) := by
      rw [check_of_isNull_eq_false (f.isNull_fill _), hframe, List.map_append, List.map_append,
        Role.partRole?]
      cases r.type.partRole? f with
      | none => rfl
      | some s => exact congrArg (_ ++ · ++ _) (check_prepend r.path s _).symm
    cases hr : r.partRole? f with
    | none =>
      -- Nothing is asked of the part, so the frames that lie within it do not matter.
      refine ⟨earlier.map (.beneath r.path), later.map (.beneath r.path), fun w => ?_⟩
      rw [Context.fill_cons, houter, hr, List.foldlM_cons, hr]
      rfl
    | some s =>
      obtain ⟨earlier', later', hinner⟩ := ih s
      refine ⟨earlier.map (.beneath r.path) ++ earlier', later' ++ later.map (.beneath r.path),
        fun w => ?_⟩
      rw [Context.fill_cons, houter, hr, List.foldlM_cons, hr, Option.elim, hinner]
      simp only [List.append_assoc]
      rfl

/-- **Findings are local, and none hides another.** The pass leaves what it is given and writes what
a check finds behind it, and the text of every place that it writes begins with that of the place it
starts from. In a document with a hole, what is written down before and behind does not depend on
what fills the hole. Nothing else is written down if nothing is asked of the value in the hole; and
otherwise it is that the value is missing, if it is null and its property is required, or else just
what the pass writes down of the value alone, against its own type and at its own place. -/
theorem walk_fill (σ : Store) (t : SchemaType) (base : String) :
    (∀ found v, t.walk σ base found v = found ++ t.walk σ base [] v ∧
      t.walk σ base [] v = (t.check σ v).map (.below base)) ∧
    (∀ v, ∀ r ∈ t.walk σ base [] v, ∃ rest, r.place = base ++ rest) ∧
    ∀ c : Context, ∃ earlier later, ∀ w, t.walk σ base [] (c.fill w) =
      earlier ++ (t.holeRole? c).elim [] (·.walk σ base w) ++ later := by
  have hwalk (v : Value) : t.walk σ base [] v = (t.check σ v).map (.below base) := walk_eq ..
  refine ⟨fun found v => ⟨?_, hwalk v⟩, fun v r hr => ?_, fun c => ?_⟩
  · rw [hwalk, walk_eq]
  · rw [hwalk, List.mem_map] at hr
    obtain ⟨d, -, rfl⟩ := hr
    exact Path.exists_foldl_after_eq_append d.path base
  · obtain ⟨earlier, later, h⟩ := Role.exists_check_fill_eq (σ := σ) t.role c
    refine ⟨earlier.map (.below base), later.map (.below base), fun w => ?_⟩
    have hrole : t.role.check σ (c.fill w) = t.check σ (c.fill w) := List.map_id _
    rw [hwalk, ← hrole, h, List.map_append, List.map_append, holeRole?]
    cases c.foldlM Role.partRole? t.role with
    | none => rfl
    | some r => exact congrArg (_ ++ · ++ _) (r.walk_eq base w).symm

/-- A name and a list of numbers, of which the second is too small. The name is missing, and
whatever it is, the number is reported as well, at the end and in the same words. -/
theorem walk_fill_two_faults :
    let count : SchemaType := .atomic 0 { name := "Count", parser := some (.integerAtLeast 1) }
    let title : SchemaType := .atomic 1 { name := "Title", parser := some .nonEmpty }
    let t : SchemaType := .bean 2 "Book" [.mk "title" title true none,
      .mk "pages" (.sequence 3 count) false none]
    let c : Context := [.entry [] [] (.string "title")
      [(.string "pages", .sequence [.string "7", .string "0"])]]
    let fault : Report := ⟨"books[4].pages[1]", .refused ⟨"0", .belowMinimum 1⟩⟩
    t.walk .empty "books[4]" [] (c.fill .null) = [⟨"books[4].title", .noValue "title"⟩, fault] ∧
      (∃ rest, fault.place = "books[4]" ++ rest) ∧
      ∃ earlier later, ∀ w, t.walk .empty "books[4]" [] (c.fill w) = earlier ++
        Role.walk .empty "books[4]" ⟨title, [.key "title"], some "title"⟩ w ++ later := by
  intro count title t c fault
  obtain ⟨-, hplace, hlocal⟩ := walk_fill .empty t "books[4]"
  have hfound : t.walk .empty "books[4]" [] (c.fill .null) =
      [⟨"books[4].title", .noValue "title"⟩, fault] := by decide
  refine ⟨hfound, hplace (c.fill .null) fault ?_, hlocal c⟩
  rw [hfound]
  exact List.mem_cons_of_mem _ List.mem_cons_self

end SchemaType

end TypedManifest
