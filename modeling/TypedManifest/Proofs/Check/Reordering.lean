import Mathlib.Data.List.Forall2
import Mathlib.Data.List.Perm.Basic
import TypedManifest.CommandLine.Run
import TypedManifest.Proofs.Check.Parts

/-!
# The order of keys

The entries of a mapping stand in some order, and a check goes through them in that order. The order
bears on nothing but the order of what is found. To say so, `Reordered` relates two values that
differ at most in the order of entries, in any of their mappings and at any depth, within keys too.
A check finds the same in both, each finding as often, though perhaps one before the other
(`check_reordered`). So the numbers of errors and warnings are the same, and so is the exit status
of the command (`checkDocuments_reordered`).
-/

namespace TypedManifest

open Check Yaml

/-! ### Values up to the order of entries -/

namespace Yaml

mutual

/-- The values differ at most in the order in which entries stand in mappings. -/
inductive Reordered : Value → Value → Prop where
  /-- A value as it is. -/
  | same (v : Value) : Reordered v v
  /-- Sequences, item by item. -/
  | sequence {items items' : List Value} :
      List.Forall₂ Reordered items items' → Reordered (.sequence items) (.sequence items')
  /-- Mappings, entry by entry once the entries of one of them have been put in another order. -/
  | mapping {entries between entries' : List (Value × Value)} :
      List.Forall₂ ReorderedEntry entries between → between.Perm entries' →
      Reordered (.mapping entries) (.mapping entries')
  /-- Values under one tag. -/
  | tagged {tag : String} {v w : Value} :
      Reordered v w → Reordered (.tagged tag v) (.tagged tag w)

/-- The entries differ at most in the order of entries within the key and within the value. -/
inductive ReorderedEntry : Value × Value → Value × Value → Prop where
  /-- Key and value. -/
  | mk {k k' v v' : Value} :
      Reordered k k' → Reordered v v' → ReorderedEntry (k, v) (k', v')

end

namespace Reordered

variable {v w : Value}

/-- What is seen of a value through its tags is no matter of order. -/
theorem seen_eq : {v w : Value} → Reordered v w →
    v.isNull = w.isNull ∧ v.string? = w.string? ∧ v.scalarText? = w.scalarText?
  | _, _, .same _ | _, _, .sequence _ | _, _, .mapping .. => ⟨rfl, rfl, rfl⟩
  | _, _, .tagged h => h.seen_eq

theorem shape_eq (h : Reordered v w) : v.shape = w.shape := by
  cases h <;> rfl

theorem isString_eq (h : Reordered v w) (name : String) : v.isString name = w.isString name := by
  cases h <;> rfl

theorem keyStep_eq (h : Reordered v w) : SchemaType.keyStep v = SchemaType.keyStep w := by
  rw [SchemaType.keyStep, SchemaType.keyStep, h.seen_eq.2.2]

theorem hasForm_eq (h : Reordered v w) (t : SchemaType) : t.hasForm v = t.hasForm w := by
  cases t with
  | atomic n a => exact congrArg Option.isSome h.seen_eq.2.2
  | _ => cases h <;> rfl

/-- What a sequence may have become. -/
theorem sequence_left {items : List Value} (h : Reordered (.sequence items) w) :
    ∃ items', List.Forall₂ Reordered items items' ∧ w = .sequence items' := by
  cases h with
  | same => exact ⟨items, List.forall₂_same.mpr fun v _ => .same v, rfl⟩
  | sequence h => exact ⟨_, h, rfl⟩

/-- What a mapping may have become. -/
theorem mapping_left {entries : List (Value × Value)} (h : Reordered (.mapping entries) w) :
    ∃ between entries', List.Forall₂ ReorderedEntry entries between ∧ between.Perm entries' ∧
      w = .mapping entries' := by
  cases h with
  | same =>
    have hsame : List.Forall₂ ReorderedEntry entries entries :=
      List.forall₂_same.mpr fun e _ => .mk (.same e.1) (.same e.2)
    exact ⟨entries, entries, hsame, .rfl, rfl⟩
  | mapping h hp => exact ⟨_, _, h, hp, rfl⟩

end Reordered

/-- The keys of a mapping are no matter of order. -/
theorem hasKey_reordered {name : String} {entries between entries' : List (Value × Value)}
    (h : List.Forall₂ ReorderedEntry entries between) (hp : between.Perm entries') :
    Value.hasKey name entries = Value.hasKey name entries' := by
  have hbetween : Value.hasKey name entries = Value.hasKey name between := by
    clear hp
    induction h with
    | nil => rfl
    | cons he _ ih =>
      obtain ⟨hk, -⟩ := he
      simp only [Value.hasKey, List.any_cons, hk.isString_eq] at ih ⊢
      rw [ih]
  rw [hbetween]
  exact hp.any_eq

end Yaml

namespace SchemaType

variable {σ : Store} {t : SchemaType} {v w : Value}

/-! ### The parts of a value -/

/-- What is found in the parts is the same when it is for each part, with the parts in another
order. -/
theorem perm_flatMap {α β : Type} {R : α → α → Prop} {f : α → List β}
    {parts between parts' : List α} (h : List.Forall₂ R parts between)
    (hp : between.Perm parts') (hf : ∀ a ∈ parts, ∀ b, R a b → (f a).Perm (f b)) :
    (parts.flatMap f).Perm (parts'.flatMap f) := by
  have hbetween : (parts.flatMap f).Perm (between.flatMap f) := by
    clear hp
    induction h with
    | nil => exact .rfl
    | cons hab _ ih =>
      rw [List.forall_mem_cons] at hf
      exact (hf.1 _ hab).append (ih hf.2)
  exact hbetween.trans (hp.flatMap_right f)

/-- The finding at an entry of a bean depends on the order within the value at most. -/
theorem checkProperty_reordered {e e' : Value × Value} (h : ReorderedEntry e e')
    (ih : ∀ p ∈ t.properties, ∀ w, Reordered e.2 w → (p.type.check σ e.2).Perm (p.type.check σ w)) :
    (t.checkProperty σ e).Perm (t.checkProperty σ e') := by
  obtain ⟨hk, hv⟩ := h
  simp only [checkProperty, hk.seen_eq.2.1, hv.seen_eq.1]
  split
  · exact .rfl
  · next name _ =>
    refine List.Perm.map _ ?_
    split
    · exact .rfl
    · next p hp =>
      split
      · exact .rfl
      · exact ih p (List.mem_of_find?_eq_some hp) _ hv

theorem checkItems_reordered {element : SchemaType} {items items' : List Value}
    (h : List.Forall₂ Reordered items items')
    (ih : ∀ v ∈ items, ∀ w, Reordered v w → (element.check σ v).Perm (element.check σ w))
    (i : Nat) :
    (checkItems σ element i items).Perm (checkItems σ element i items') := by
  induction h generalizing i with
  | nil => exact .rfl
  | cons hv _ ihs =>
    obtain ⟨ihv, ihvs⟩ := List.forall_mem_cons.mp ih
    rw [checkItems, checkItems]
    exact ((ihv _ hv).map _).append (ihs ihvs (i + 1))

/-! ### Whole checks -/

/-- **The order of entries bears on the order of findings alone.** -/
theorem check_reordered (h : Reordered v w) : (t.check σ v).Perm (t.check σ w) := by
  induction t, v using checkInduction generalizing w with
  | null t v hn =>
    rw [check_of_isNull hn, check_of_isNull (h.seen_eq.1 ▸ hn)]
  | misfit t v hn hf =>
    rw [check_of_not_hasForm hn hf,
      check_of_not_hasForm (h.seen_eq.1 ▸ hn) (h.hasForm_eq t ▸ hf), wrongShape, wrongShape,
      h.shape_eq]
  | atomic n a v text ht =>
    rw [check_atomic ht, check_atomic (h.seen_eq.2.2 ▸ ht)]
  | bean n name ps entries ih =>
    obtain ⟨between, entries', hes, hp, rfl⟩ := h.mapping_left
    have hpresence : (SchemaType.bean n name ps).checkPresence entries =
        (SchemaType.bean n name ps).checkPresence entries' := by
      simp only [checkPresence, hasKey_reordered hes hp]
    rw [check_bean, check_bean, hpresence]
    refine (perm_flatMap hes hp fun e he e' hee => ?_).append_right _
    exact checkProperty_reordered hee fun p hp w hw => ih e he p hp hw
  | sequence n element items ih =>
    obtain ⟨items', hitems, rfl⟩ := h.sequence_left
    rw [check, check]
    exact checkItems_reordered hitems (fun v hv w hw => ih v hv hw) 0
  | map n key value entries ih =>
    obtain ⟨between, entries', hes, hp, rfl⟩ := h.mapping_left
    rw [check_map, check_map]
    refine perm_flatMap hes hp fun e he e' hee => ?_
    obtain ⟨hk, hv⟩ := hee
    rw [checkEntry, checkEntry, hk.keyStep_eq]
    exact (((ih _ he).1 hk).append ((ih _ he).2 hv)).map _

end SchemaType

/-! ### Streams and the command -/

/-- The documents that a text holds, if it can be read. -/
def Text.documents? (text : String) : Option (List Value) :=
  if Text.isIdle text then some [] else (Value.readStream text).toOption

theorem Schema.checkText_eq {S : Schema} {σ : Store} {text : String} {documents : List Value}
    (h : Text.documents? text = some documents) :
    S.checkText σ text = S.checkDocuments σ documents := by
  unfold Text.documents? at h
  unfold checkText
  split at h
  · next hidle =>
    obtain rfl := Option.some.inj h
    rw [if_pos hidle]
  · next hidle =>
    rw [if_neg hidle]
    cases hread : Value.readStream text with
    | error fault => simp [hread, Except.toOption] at h
    | ok values =>
      obtain rfl : values = documents := by simpa [hread, Except.toOption] using h
      rfl

namespace CommandLine

/-- Checking a manifest fails exactly when there is an error in it. -/
theorem status_runWith_check {read : String → Except FileError String} {i : Invocation} {c : Config}
    {file text : String} {documents : List Value} (hi : i.command = .check file)
    (hread : read file = .ok text) (hd : Text.documents? text = some documents) :
    (runWith (m := Id) read i c).status =
      if errorCount ((c.settings 0 .empty).1.schema.checkDocuments (c.settings 0 .empty).2
        documents) = 0 then 0 else 1 := by
  rw [← Schema.checkText_eq hd]
  simp only [runWith, hi, hread]
  rfl

end CommandLine

open CommandLine in
/-- **The order of keys does not matter.** Let two streams hold the same documents up to the order
of entries. Then the same is found in both, each finding as often, whatever the schema; so there are
as many errors and as many warnings in one as in the other. And when two files hold the same
documents up to the order of entries, checking one and checking the other, with any one
configuration, end with the same exit status. -/
theorem Schema.checkDocuments_reordered :
    (∀ (S : Schema) (σ : Store) (documents documents' : List Value),
      List.Forall₂ Reordered documents documents' →
      (S.checkDocuments σ documents).Perm (S.checkDocuments σ documents') ∧
        ∀ severity : Severity,
          (S.checkDocuments σ documents).countP (·.severity = severity) =
            (S.checkDocuments σ documents').countP (·.severity = severity)) ∧
    ∀ (c : Config) (i : Invocation) (file : String), i.command = .check file →
      ∀ (read read' : String → Except FileError String) (text text' : String),
      read file = .ok text → read' file = .ok text' →
      ∀ documents documents', Text.documents? text = some documents →
      Text.documents? text' = some documents' → List.Forall₂ Reordered documents documents' →
      (runWith (m := Id) read i c).status = (runWith (m := Id) read' i c).status := by
  have hperm (S : Schema) (σ : Store) (documents documents' : List Value)
      (h : List.Forall₂ Reordered documents documents') :
      (S.checkDocuments σ documents).Perm (S.checkDocuments σ documents') := by
    unfold checkDocuments
    rw [h.length_eq]
    cases S.documents.check documents'.length with
    | error e => exact .rfl
    | ok u =>
      induction h with
      | nil => exact .rfl
      | cons hv _ ih => exact (SchemaType.check_reordered hv).append ih
  refine ⟨fun S σ documents documents' h => ?findings, ?status⟩
  case findings => exact ⟨hperm S σ _ _ h, fun severity => (hperm S σ _ _ h).countP_eq _⟩
  case status =>
    intro c i file hi read read' text text' hread hread' documents documents' hd hd' h
    rw [status_runWith_check hi hread hd, status_runWith_check hi hread' hd', errorCount,
      errorCount, (hperm _ _ _ _ h).countP_eq]

open CommandLine in
/-- An application without a name and with no instances, and too little memory for all of them; the
entries of the manifest and those of the application are swapped. -/
theorem Schema.checkDocuments_reordered_nested :
    let text := "\x7bmemory: 0M, applications: [\x7bpath: a, instances: 0\x7d]\x7d"
    let text' := "\x7bapplications: [\x7binstances: 0, path: a\x7d], memory: 0M\x7d"
    let path : Value × Value := (.string "path", .string "a")
    let instances : Value × Value := (.string "instances", .number (.int 0))
    let memory : Value × Value := (.string "memory", .string "0M")
    let applications (v : Value) : Value × Value := (.string "applications", .sequence [v])
    let d : Value := .mapping [memory, applications (.mapping [path, instances])]
    let d' : Value := .mapping [applications (.mapping [instances, path]), memory]
    let S := ({} : Manifest.Settings).schema
    let place : Path := [.key "applications", .item 0]
    let i : Invocation := ⟨0, none, .check "manifest.yml", false⟩
    S.checkDocuments .empty [d] = [⟨[.key "memory"], .refused ⟨"0M", .belowMinimum 1⟩⟩,
        ⟨place ++ [.key "instances"], .refused ⟨"0", .belowMinimum 1⟩⟩,
        ⟨place, .missingProperty "name"⟩] ∧
      (S.checkDocuments .empty [d]).Perm (S.checkDocuments .empty [d']) ∧
      (runWith (m := Id) (fun _ => .ok text) i {}).status =
        (runWith (m := Id) (fun _ => .ok text') i {}).status := by
  intro text text' path instances memory applications d d' S place i
  have hinner : Reordered (.mapping [path, instances]) (.mapping [instances, path]) :=
    .mapping (.cons (.mk (.same _) (.same _)) (.cons (.mk (.same _) (.same _)) .nil)) (.swap ..)
  have houter : Reordered d d' :=
    .mapping (.cons (.mk (.same _) (.same _))
      (.cons (.mk (.same _) (.sequence (.cons hinner .nil))) .nil)) (.swap ..)
  have htext : Text.documents? text = some [d] := by decide +kernel
  have htext' : Text.documents? text' = some [d'] := by decide +kernel
  obtain ⟨hfindings, hstatus⟩ := checkDocuments_reordered
  have h : List.Forall₂ Reordered [d] [d'] := .cons houter .nil
  exact ⟨by decide, (hfindings S .empty [d] [d'] h).1,
    hstatus {} i "manifest.yml" rfl _ _ text text' rfl rfl [d] [d'] htext htext' h⟩

end TypedManifest
