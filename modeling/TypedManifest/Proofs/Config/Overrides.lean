import TypedManifest.Config.Basic
import TypedManifest.Proofs.Result
import TypedManifest.Proofs.Text.Blank
import TypedManifest.Proofs.Text.Numeral

/-!
# Settings from variables

A variable that is set replaces one setting, and nothing but its own variable bears on a setting
(`Config.override_eq_ok_iff`). Only the timeout can be refused, and then there is no configuration
at all (`Config.override_eq_error_iff`).

The lists among the settings are written with commas between their items. `Config.Lists` says which
items a text lists, in three rules that do not mention how a text is taken apart; the reader
`Config.splitList` returns the items that a text lists, for every text (`Config.splitList_eq_iff`).
All that is used of the reader is `Config.splitList_append_comma`: a comma anywhere in a text
divides its items.
-/

namespace TypedManifest.Config

/-! ### Lists -/

/-- An item of a list. -/
structure IsItem (item : String) : Prop where
  /-- It is not empty. -/
  ne_empty : item ≠ ""
  /-- It has no blank at its ends. -/
  trimmed : Text.trimmed item = item
  /-- It holds no comma. -/
  comma_not_mem : ',' ∉ item.toList

/-- The text lists the items, in this order. -/
inductive Lists : List Char → List String → Prop where
  /-- Blanks, or nothing, list nothing. -/
  | blank {gap : List Char} : (∀ c ∈ gap, Text.isBlank c = true) → Lists gap []
  /-- An item with blanks around it lists the item. -/
  | item {before after : List Char} {item : String} : (∀ c ∈ before, Text.isBlank c = true) →
      IsItem item → (∀ c ∈ after, Text.isBlank c = true) →
      Lists (before ++ item.toList ++ after) [item]
  /-- Two texts with a comma between them list what the one lists, and then what the other does. -/
  | comma {text text' : List Char} {items items' : List String} : Lists text items →
      Lists text' items' → Lists (text ++ ',' :: text') (items ++ items')

variable {cs : List Char} {s item : String} {items : List String}

theorem Lists.isItem (h : Lists cs items) : ∀ item ∈ items, IsItem item := by
  induction h with
  | blank _ => exact nofun
  | item _ hitem _ =>
    intro x hx
    rw [List.mem_singleton.mp hx]
    exact hitem
  | comma _ _ ih ih' =>
    intro x hx
    rcases List.mem_append.mp hx with hx | hx
    · exact ih x hx
    · exact ih' x hx

/-- Items with a comma between any two of them, and nothing else, are a list of them. -/
theorem lists_intercalate (h : ∀ item ∈ items, IsItem item) :
    Lists (",".intercalate items).toList items := by
  have alone {item : String} (hitem : IsItem item) : Lists item.toList [item] := by
    have hlists : Lists ([] ++ item.toList ++ []) [item] := .item nofun hitem nofun
    simpa using hlists
  induction items with
  | nil => exact .blank nofun
  | cons item items ih =>
    have hitem : IsItem item := h item List.mem_cons_self
    have hitems : ∀ x ∈ items, IsItem x := fun x hx => h x (List.mem_cons_of_mem _ hx)
    cases items with
    | nil => simpa using alone hitem
    | cons next items =>
      have htext : (",".intercalate (item :: next :: items)).toList =
          item.toList ++ ',' :: (",".intercalate (next :: items)).toList := by
        simp [String.intercalate_cons_cons]
      rw [htext]
      exact (alone hitem).comma (ih hitems)

/-! ### The reader of lists -/

/-- A comma divides the items of a text. -/
theorem splitList_append_comma (before after : List Char) :
    splitList (.ofList (before ++ ',' :: after)) =
      splitList (.ofList before) ++ splitList (.ofList after) := by
  simp only [splitList, String.toList_ofList, List.splitOn_append_cons_self, List.map_append,
    List.filter_append]

theorem splitList_of_comma_not_mem (h : ',' ∉ cs) : splitList (.ofList cs) =
    if Text.trim cs = [] then [] else [.ofList (Text.trim cs)] := by
  rw [splitList, String.toList_ofList, List.splitOn_eq_singleton h]
  by_cases ht : Text.trim cs = [] <;> simp [ht]

/-- A text without commas lists what is left when it is trimmed, if anything is. -/
theorem lists_of_comma_not_mem (h : ',' ∉ cs) :
    Lists cs (if Text.trim cs = [] then [] else [.ofList (Text.trim cs)]) := by
  obtain ⟨before, after, hcs, hbefore, hafter, -⟩ :=
    Text.trim_eq_iff.mp (rfl : Text.trim cs = Text.trim cs)
  split
  · next hnil =>
    rw [hnil, List.append_nil] at hcs
    refine .blank fun c hc => ?_
    rw [hcs] at hc
    exact (List.mem_append.mp hc).elim (hbefore c) (hafter c)
  · next hne =>
    have hitem : IsItem (.ofList (Text.trim cs)) := by
      constructor
      · exact fun hempty => hne (by simpa using congrArg String.toList hempty)
      · rw [Text.trimmed, String.toList_ofList, Text.trim_trim]
      · intro hcomma
        rw [String.toList_ofList] at hcomma
        rw [hcs] at h
        exact h (List.mem_append_left _ (List.mem_append_right _ hcomma))
    have hlists := Lists.item hbefore hitem hafter
    rwa [String.toList_ofList, ← hcs] at hlists

theorem lists_splitList (cs : List Char) : Lists cs (splitList (.ofList cs)) := by
  by_cases h : ',' ∈ cs
  · obtain ⟨before, after, hcs⟩ := List.append_of_mem h
    have hlength : cs.length = before.length + after.length + 1 := by
      rw [hcs, List.length_append, List.length_cons, Nat.add_assoc]
    rw [hcs, splitList_append_comma]
    exact .comma (lists_splitList before) (lists_splitList after)
  · rw [splitList_of_comma_not_mem h]
    exact lists_of_comma_not_mem h
termination_by cs.length

theorem splitList_of_lists (h : Lists cs items) : splitList (.ofList cs) = items := by
  -- A comma is no blank, so there is none in what the first two rules are about.
  have hcomma {gap : List Char} (hgap : ∀ c ∈ gap, Text.isBlank c = true) : ',' ∉ gap :=
    fun hmem => absurd (hgap ',' hmem) (by decide)
  induction h with
  | blank hgap => rw [splitList_of_comma_not_mem (hcomma hgap), if_pos (Text.trim_of_blank hgap)]
  | @item before after item hbefore hitem hafter =>
    have htrim : Text.trim (before ++ item.toList ++ after) = item.toList := by
      refine Text.trim_append_of_trim_eq hbefore hafter ?_
      simpa [Text.trimmed] using congrArg String.toList hitem.trimmed
    have hnone : ',' ∉ before ++ item.toList ++ after := by
      simp only [List.mem_append, not_or]
      exact ⟨⟨hcomma hbefore, hitem.comma_not_mem⟩, hcomma hafter⟩
    have hne : item.toList ≠ [] := fun h => hitem.ne_empty (String.toList_eq_nil_iff.mp h)
    rw [splitList_of_comma_not_mem hnone, htrim, if_neg hne, String.ofList_toList]
  | comma _ _ ih ih' => rw [splitList_append_comma, ih, ih']

/-- **The reader returns the items that a text lists.** -/
theorem splitList_eq_iff : splitList s = items ↔ Lists s.toList items := by
  constructor
  · rintro rfl
    simpa using lists_splitList s.toList
  · intro h
    simpa using splitList_of_lists h

/-! ### Timeouts -/

/-- The text, once it is trimmed, is a numeral for a 64-bit number, with a plus sign in front or
not. -/
def SpellsTimeout (text : String) (n : Nat) : Prop :=
  n ≤ Text.maxWord ∧ ∃ sign digits, (sign = [] ∨ sign = ['+']) ∧ Text.Denotes digits n ∧
    Text.trim text.toList = sign ++ digits

variable {text : String} {n : Nat} {e : ConfigError}

theorem readTimeout_eq_ok_iff : readTimeout text = .ok n ↔ SpellsTimeout text n := by
  rw [SpellsTimeout, ← Text.naturalUpTo?_eq_some_iff, readTimeout]
  cases Text.naturalUpTo? Text.maxWord (Text.trim text.toList) <;> simp

theorem readTimeout_eq_error_iff : readTimeout text = .error e ↔
    (¬ ∃ n, SpellsTimeout text n) ∧ e = .invalidValue timeoutVariable text := by
  simp only [← readTimeout_eq_ok_iff]
  unfold readTimeout
  cases Text.naturalUpTo? Text.maxWord (Text.trim text.toList) <;> simp [eq_comm]

/-! ### Overriding -/

/-- What becomes of a setting when `given` is the text of its variable: what the text means, if
there is one, and else what the setting has been. -/
def Becomes {α : Type} (means : String → α → Prop) (given : Option String) (old new : Option α) :
    Prop :=
  match given with
  | some text => ∃ value, means text value ∧ new = some value
  | none => new = old

/-- Each setting becomes what its own variable says, if that is set, or stays what it is. -/
structure Overridden (lookup : String → Option String) (c c' : Config) : Prop where
  /-- The buildpacks. -/
  buildpacks : Becomes (splitList · = ·) (lookup "MFST_BUILDPACKS") c.buildpacks c'.buildpacks
  /-- The services. -/
  services : Becomes (splitList · = ·) (lookup "MFST_SERVICES") c.services c'.services
  /-- The domains. -/
  domains : Becomes (splitList · = ·) (lookup "MFST_DOMAINS") c.domains c'.domains
  /-- The timeout. -/
  hintTimeout : Becomes SpellsTimeout (lookup "MFST_HINT_TIMEOUT_MS") c.hintTimeout c'.hintTimeout
  /-- The folder with the descriptions. -/
  descriptionsFolder : Becomes (· = ·) (lookup "MFST_DESCRIPTIONS_DIR") c.descriptionsFolder
    c'.descriptionsFolder

variable {α : Type} {means : String → α → Prop} {read : String → α} {given : Option String}
  {old new : Option α} {c c' : Config} {lookup : String → Option String}

theorem becomes_iff : Becomes (read · = ·) given old new ↔ (given.map read <|> old) = new := by
  cases given with
  | none => exact eq_comm
  | some text => simp [Becomes, eq_comm]

/-- A setting that is a text is taken as it is given. -/
theorem becomes_text_iff {old new : Option String} :
    Becomes (· = ·) given old new ↔ (given <|> old) = new := by
  have h : Becomes (id · = ·) given old new ↔ (given.map id <|> old) = new := becomes_iff
  rwa [Option.map_id] at h

/-- What has become what its variable says stays so. -/
theorem Becomes.again (h : Becomes means given old new) : Becomes means given new new := by
  cases given with
  | none => rfl
  | some text => exact h

theorem becomes_timeout_iff {old new : Option Nat} : Becomes SpellsTimeout given old new ↔
    ∃ timeout, given.mapM readTimeout = .ok timeout ∧ (timeout <|> old) = new := by
  cases given with
  | none =>
    show new = old ↔ ∃ timeout, Except.ok none = Except.ok timeout ∧ (timeout <|> old) = new
    simp [eq_comm]
  | some text =>
    simp only [Becomes, ← readTimeout_eq_ok_iff, Option.mapM_some]
    cases readTimeout text with
    | error e => exact iff_of_false nofun nofun
    | ok n =>
      show (∃ m, Except.ok n = Except.ok m ∧ new = some m) ↔
        ∃ timeout, Except.ok (some n) = Except.ok timeout ∧ (timeout <|> old) = new
      simp [eq_comm]

/-- Overriding reads the timeout, which may fail, and then only puts the settings together. -/
theorem override_eq (c : Config) (lookup : String → Option String) : c.override lookup =
    ((lookup timeoutVariable).mapM readTimeout).map fun timeout =>
      { buildpacks := (lookup buildpacksVariable).map splitList <|> c.buildpacks
        services := (lookup servicesVariable).map splitList <|> c.services
        domains := (lookup domainsVariable).map splitList <|> c.domains
        hintTimeout := timeout <|> c.hintTimeout
        descriptionsFolder := lookup descriptionsVariable <|> c.descriptionsFolder } := by
  unfold override
  cases (lookup timeoutVariable).mapM readTimeout <;> rfl

theorem override_eq_ok_iff : c.override lookup = .ok c' ↔ Overridden lookup c c' := by
  rw [override_eq, map_eq_ok_iff]
  constructor
  · rintro ⟨timeout, htimeout, rfl⟩
    exact ⟨becomes_iff.mpr rfl, becomes_iff.mpr rfl, becomes_iff.mpr rfl,
      becomes_timeout_iff.mpr ⟨timeout, htimeout, rfl⟩, becomes_text_iff.mpr rfl⟩
  · intro h
    obtain ⟨timeout, htimeout, hnew⟩ := becomes_timeout_iff.mp h.hintTimeout
    refine ⟨timeout, htimeout, ?_⟩
    rw [Config.mk.injEq]
    exact ⟨becomes_iff.mp h.buildpacks, becomes_iff.mp h.services, becomes_iff.mp h.domains, hnew,
      becomes_text_iff.mp h.descriptionsFolder⟩

theorem override_eq_error_iff : c.override lookup = .error e ↔
    ∃ text, lookup timeoutVariable = some text ∧ (¬ ∃ n, SpellsTimeout text n) ∧
      e = .invalidValue timeoutVariable text := by
  rw [override_eq, map_eq_error_iff]
  cases lookup timeoutVariable with
  | none => exact iff_of_false nofun nofun
  | some text =>
    simp only [Option.mapM_some, Option.some.injEq, exists_eq_left', ← readTimeout_eq_error_iff]
    cases readTimeout text with
    | error e' =>
      show Except.error e' = Except.error e ↔ Except.error e' = Except.error e
      simp
    | ok n => exact iff_of_false nofun nofun

/-- Overriding a second time changes nothing. -/
theorem override_override (h : c.override lookup = .ok c') : c'.override lookup = .ok c' := by
  have hc := override_eq_ok_iff.mp h
  exact override_eq_ok_iff.mpr ⟨hc.buildpacks.again, hc.services.again, hc.domains.again,
    hc.hintTimeout.again, hc.descriptionsFolder.again⟩

/-- **What variables make of a configuration.** It is refused exactly when there is a timeout that
does not spell a number, which is then reported as it was given. Otherwise each setting becomes what
its own variable says, if that is set, and stays what it is if not, whatever the other variables
are; and the same variables change nothing any more. A list is what its text lists, so the items of
a text, written one after the other with commas between them, are read as themselves. -/
theorem override_law (c : Config) (lookup : String → Option String) :
    (∀ e, c.override lookup = .error e ↔ ∃ text, lookup "MFST_HINT_TIMEOUT_MS" = some text ∧
      (¬ ∃ n, SpellsTimeout text n) ∧ e = .invalidValue "MFST_HINT_TIMEOUT_MS" text) ∧
    (∀ c', c.override lookup = .ok c' ↔ Overridden lookup c c') ∧
    (∀ c', c.override lookup = .ok c' → c'.override lookup = .ok c') ∧
    (∀ s items, splitList s = items ↔ Lists s.toList items) ∧
    (∀ s, ∀ item ∈ splitList s, IsItem item) ∧
    ∀ s, splitList (",".intercalate (splitList s)) = splitList s := by
  have hitems (s : String) : ∀ item ∈ splitList s, IsItem item :=
    (splitList_eq_iff.mp rfl : Lists s.toList (splitList s)).isItem
  exact ⟨fun e => override_eq_error_iff, fun c' => override_eq_ok_iff,
    fun c' h => override_override h, fun s items => splitList_eq_iff, hitems,
    fun s => splitList_eq_iff.mpr (lists_intercalate (hitems s))⟩

/-- The domains and the timeout are given, the former with commas before, between and after them and
with an em space in front of an item. The services stay, and the buildpacks stay away. -/
theorem override_law_domains :
    let c : Config := { services := some [], domains := some ["old.example.com"] }
    let lookup : String → Option String :=
      ([("MFST_DOMAINS", ", a.example.com,,\u2003b c ,"),
        ("MFST_HINT_TIMEOUT_MS", " +250 ")].lookup ·)
    let c' : Config :=
      { services := some [], domains := some ["a.example.com", "b c"], hintTimeout := some 250 }
    c.override lookup = .ok c' ∧ Overridden lookup c c' ∧ c'.override lookup = .ok c' ∧
      Lists ", a.example.com,,\u2003b c ,".toList ["a.example.com", "b c"] ∧ IsItem "b c" ∧
      ¬ ∃ n, SpellsTimeout "18446744073709551616" n := by
  intro c lookup c'
  have hok : c.override lookup = .ok c' := rfl
  obtain ⟨-, hsettings, hagain, hlists, hitems, -⟩ := override_law c lookup
  obtain ⟨hrefused, -⟩ := override_law c fun _ => some "18446744073709551616"
  obtain ⟨text, htext, hspells, -⟩ :=
    (hrefused (.invalidValue "MFST_HINT_TIMEOUT_MS" "18446744073709551616")).mp rfl
  obtain rfl := Option.some.inj htext
  exact ⟨hok, (hsettings c').mp hok, hagain c' hok, (hlists _ _).mp rfl,
    hitems ", a.example.com,,\u2003b c ," "b c" (by decide), hspells⟩

end TypedManifest.Config
