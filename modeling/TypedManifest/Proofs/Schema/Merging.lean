import Mathlib.Data.List.Induction
import TypedManifest.Proofs.Schema.Enumeration

/-!
# Merging hints

What a type offers is made of three origins: the members of its enumeration, its own hints, and the
hints of its sources. Their lists may overlap, within and between each other, and of several hints
for one value the first is kept. The sources are asked one after the other and each request changes
the store, so what one of them brings may depend on the requests before it.

`Hint.firsts` reads the hints from the left with a list of the values it has seen. Its laws are
stated without that list: it keeps the hints before which their value does not occur
(`Hint.firsts_eq_firstOccurrences`), and of two lists it keeps what it keeps of the first, and then
what it keeps of the second and is new (`Hint.firsts_append`). `Store.bringsAll` is what each of
many requests brings. It is a matter of the providers of the sources alone (`bringsAll_congr`), so a
request leaves alone what other providers bring. The main result puts the two together.
-/

namespace TypedManifest

/-! ### First occurrences -/

namespace Hint

/-- The hints before which no hint has the same value. -/
def firstOccurrences (hs : List Hint) : List Hint :=
  (hs.zipIdx.filter fun p => (hs.take p.2).all (·.value ≠ p.1.value)).map Prod.fst

variable {g h : Hint} {hs hs' : List Hint}

/-- What has been seen takes the hints for its values away. -/
theorem firstsExcept_eq_filter {seen : List String} :
    firstsExcept seen hs = (firsts hs).filter (·.value ∉ seen) := by
  induction hs generalizing seen with
  | nil => rfl
  | cons h hs ih =>
    have hcons : firsts (h :: hs) = h :: firstsExcept [h.value] hs := rfl
    rw [hcons, ih, firstsExcept, ih, ih]
    by_cases hm : h.value ∈ seen
    · rw [if_pos (List.contains_iff_mem.mpr hm), List.filter_cons_of_neg (by simpa using hm),
        List.filter_filter]
      refine List.filter_congr fun g _ => ?_
      by_cases hg : g.value = h.value <;> simp [hg, hm]
    · rw [if_neg (by simpa using hm), List.filter_cons_of_pos (by simpa using hm),
        List.filter_filter]
      refine congrArg _ (List.filter_congr fun g _ => ?_)
      by_cases hg : g.value = h.value <;> simp [hg]

theorem firsts_cons : firsts (h :: hs) = h :: (firsts hs).filter (·.value ≠ h.value) := by
  have hcons : firsts (h :: hs) = h :: firstsExcept [h.value] hs := rfl
  rw [hcons, firstsExcept_eq_filter]
  simp only [List.mem_singleton, ne_eq]

/-- Of two lists, what is kept of the first comes first, and then what is kept of the second and is
new. -/
theorem firsts_append :
    firsts (hs ++ hs') = firsts hs ++ (firsts hs').filter (·.value ∉ hs.map value) := by
  induction hs with
  | nil => exact (List.filter_eq_self.mpr (by simp)).symm
  | cons h hs ih =>
    rw [List.cons_append, firsts_cons, ih, firsts_cons, List.filter_append, List.filter_filter,
      List.cons_append]
    simp only [List.map_cons, List.mem_cons, not_or, Bool.decide_and]

theorem firsts_append_singleton :
    firsts (hs ++ [h]) = firsts hs ++ if h.value ∈ hs.map value then [] else [h] := by
  have hone : firsts [h] = [h] := rfl
  rw [firsts_append, hone]
  by_cases hm : h.value ∈ hs.map value
  · rw [if_pos hm, List.filter_cons_of_neg (by simpa using hm), List.filter_nil]
  · rw [if_neg hm, List.filter_cons_of_pos (by simpa using hm), List.filter_nil]

theorem firstOccurrences_append_singleton :
    firstOccurrences (hs ++ [h]) =
      firstOccurrences hs ++ if h.value ∈ hs.map value then [] else [h] := by
  -- A hint that stands before the last one has the same hints before it as without the last one.
  have hbefore : hs.zipIdx.filter (fun p => ((hs ++ [h]).take p.2).all (·.value ≠ p.1.value)) =
      hs.zipIdx.filter (fun p => (hs.take p.2).all (·.value ≠ p.1.value)) := by
    refine List.filter_congr fun p hp => ?_
    have hlt : p.2 < hs.length := by simpa using (List.mem_zipIdx hp).2.1
    rw [List.take_append_of_le_length (Nat.le_of_lt hlt)]
  have hlast : (hs ++ [h]).take hs.length = hs := List.take_left
  rw [firstOccurrences, List.zipIdx_append, List.filter_append, List.map_append, hbefore,
    Nat.zero_add, List.zipIdx_singleton]
  refine congrArg (firstOccurrences hs ++ ·) ?_
  by_cases hm : h.value ∈ hs.map value
  · rw [if_pos hm, List.filter_cons_of_neg (by simpa [hlast] using hm), List.filter_nil,
      List.map_nil]
  · rw [if_neg hm, List.filter_cons_of_pos (by simpa [hlast] using hm), List.filter_nil,
      List.map_singleton]

/-- The scan from the left keeps the first occurrences. -/
theorem firsts_eq_firstOccurrences : firsts hs = firstOccurrences hs := by
  -- Whether a hint is kept depends on those before it, so the induction takes the last one off.
  induction hs using List.reverseRecOn with
  | nil => rfl
  | append_singleton hs h ih =>
    rw [firsts_append_singleton, firstOccurrences_append_singleton, ih]

/-- What is offered for a value is the first hint for it. -/
theorem find?_eq_of_mem_firsts (hh : h ∈ firsts hs) :
    hs.find? (·.value = h.value) = some h := by
  induction hs with
  | nil => nomatch hh
  | cons g hs ih =>
    rw [firsts_cons, List.mem_cons, List.mem_filter] at hh
    obtain rfl | ⟨hmem, hne⟩ := hh
    · exact List.find?_cons_of_pos (by simp)
    · have hg : g.value ≠ h.value := Ne.symm (of_decide_eq_true hne)
      rw [List.find?_cons_of_neg (by simpa using hg)]
      exact ih hmem

/-- The hints up to the first one that is new in the second list are those of the first list. -/
theorem takeWhile_firsts_append :
    (firsts (hs ++ hs')).takeWhile (·.value ∈ hs.map value) = firsts hs := by
  have hold : ∀ h ∈ firsts hs, decide (h.value ∈ hs.map value) = true := fun h hh =>
    decide_eq_true (mem_values_firsts.mp (List.mem_map_of_mem hh))
  rw [firsts_append, List.takeWhile_append_of_pos hold]
  cases hnew : (firsts hs').filter (·.value ∉ hs.map value) with
  | nil => exact List.append_nil _
  | cons g gs =>
    have hg : g ∈ (firsts hs').filter (·.value ∉ hs.map value) := hnew ▸ List.mem_cons_self
    rw [List.takeWhile_cons_of_neg (by simpa using (List.mem_filter.mp hg).2), List.append_nil]

end Hint

/-! ### What the sources bring -/

namespace Store

/-- What a request through a source brings. A request that fails brings nothing. -/
def brings (σ : Store) (s : Source) : List Hint := ((σ.fetch s).1.toOption).getD []

/-- The store after requests through the sources, one after the other. -/
def after (σ : Store) (ss : List Source) : Store := ss.foldl (fun σ s => (σ.fetch s).2) σ

/-- What each of the requests through the sources brings, one after the other. -/
def bringsAll (σ : Store) : List Source → List (List Hint)
  | [] => []
  | s :: ss => σ.brings s :: bringsAll (σ.fetch s).2 ss

/-- All answers of the provider amount to the same for a source. -/
def Steady (σ : Store) (s : Source) : Prop :=
  ∀ i j, ((σ.provider s.provider).answer i).inTime? s.timeout =
    ((σ.provider s.provider).answer j).inTime? s.timeout

variable {σ τ : Store} {s : Source} {ss ts : List Source}

theorem brings_eq : σ.brings s = ((σ.answerTo s).inTime? s.timeout).getD [] := by
  have h : (σ.fetch s).1.toOption = (σ.answerTo s).inTime? s.timeout := by
    refine Option.ext fun hints => ?_
    rw [← fetch_eq_ok_iff]
    cases (σ.fetch s).1 <;> simp [Except.toOption]
  rw [brings, h]

theorem brings_of_error {e : HintError} (h : (σ.fetch s).1 = .error e) : σ.brings s = [] := by
  rw [brings, h]
  rfl

/-- Making do without the hints of a source that fails is to put what all bring together. -/
theorem hintsOfAll_fst : (σ.hintsOfAll ss).1.1 = (σ.bringsAll ss).flatten := by
  induction ss generalizing σ with
  | nil => rfl
  | cons s ss ih =>
    rw [bringsAll, List.flatten_cons, ← ih]
    simp only [hintsOfAll, hints_eq, brings]
    cases (σ.fetch s).1 <;> rfl

theorem bringsAll_append :
    σ.bringsAll (ss ++ ts) = σ.bringsAll ss ++ (σ.after ss).bringsAll ts := by
  induction ss generalizing σ with
  | nil => rfl
  | cons s ss ih => exact congrArg (σ.brings s :: ·) ih

/-- What sources bring is a matter of their providers alone. -/
theorem bringsAll_congr (h : ∀ s ∈ ss, σ.provider s.provider = τ.provider s.provider) :
    σ.bringsAll ss = τ.bringsAll ss := by
  induction ss generalizing σ τ with
  | nil => rfl
  | cons s ss ih =>
    obtain ⟨hs, hss⟩ := List.forall_mem_cons.mp h
    have hfirst : σ.brings s = τ.brings s := by rw [brings_eq, brings_eq, answerTo, answerTo, hs]
    have hrest : (σ.fetch s).2.bringsAll ss = (τ.fetch s).2.bringsAll ss := by
      refine ih fun t ht => ?_
      rw [provider_fetch, provider_fetch, hss t ht]
    rw [bringsAll, bringsAll, hfirst, hrest]

/-- A source that fails may be left out, unless a later one shares its provider. -/
theorem flatten_bringsAll_of_error {e : HintError} (h : ((σ.after ss).fetch s).1 = .error e)
    (hts : ∀ t ∈ ts, t.provider ≠ s.provider) :
    (σ.bringsAll (ss ++ s :: ts)).flatten = (σ.bringsAll (ss ++ ts)).flatten := by
  have hrest : ((σ.after ss).fetch s).2.bringsAll ts = (σ.after ss).bringsAll ts := by
    refine bringsAll_congr fun t ht => ?_
    rw [provider_fetch, if_neg (hts t ht)]
  rw [bringsAll_append, bringsAll_append, bringsAll, brings_of_error h, hrest,
    List.flatten_append, List.flatten_append, List.flatten_cons, List.nil_append]

/-- Sources that always bring the same bring it in any store with the same answers. -/
theorem bringsAll_of_steady (hσ : ∀ s ∈ ss, σ.Steady s)
    (hτ : ∀ i, (τ.provider i).answer = (σ.provider i).answer) :
    τ.bringsAll ss = ss.map σ.brings := by
  induction ss generalizing τ with
  | nil => rfl
  | cons s ss ih =>
    obtain ⟨hs, hss⟩ := List.forall_mem_cons.mp hσ
    have hfirst : τ.brings s = σ.brings s := by
      rw [brings_eq, brings_eq, answerTo, answerTo, hτ, hs]
    have hrest : (τ.fetch s).2.bringsAll ss = ss.map σ.brings :=
      ih hss fun i => (answer_provider_fetch τ s i).trans (hτ i)
    rw [bringsAll, hfirst, hrest, List.map_cons]

theorem flatten_bringsAll_perm (hp : ts.Perm ss) (hσ : ∀ s ∈ ss, σ.Steady s) :
    (σ.bringsAll ts).flatten.Perm (σ.bringsAll ss).flatten := by
  have hts : ∀ t ∈ ts, σ.Steady t := fun t ht => hσ t (hp.mem_iff.mp ht)
  rw [bringsAll_of_steady hσ fun _ => rfl, bringsAll_of_steady hts fun _ => rfl]
  exact (hp.map σ.brings).flatten

end Store

/-! ### What a type offers -/

namespace SchemaType

variable {σ : Store} {n : Nat} {a : Atomic}

/-- What a type offers by itself: the members that the table of replacements has no row for, and
then its own hints. -/
theorem ownHints_eq : ownHints a = (a.enumeration.elim [] fun e =>
    (e.members.filter (· ∉ e.replacements.map Prod.fst)).map ({ value := · })) ++ a.hints := by
  rw [ownHints]
  cases a.enumeration with
  | none => rfl
  | some e => rw [Option.map_some, Option.getD_some, Enumeration.live_eq, Option.elim_some]

theorem hintsFor_fst : (hintsFor σ (.atomic n a)).1.1 =
    Hint.firsts (ownHints a ++ (σ.bringsAll a.sources).flatten) := by
  rw [← Store.hintsOfAll_fst]
  rfl

/-- **What an atomic type offers, whatever sources it has.** The candidates are its members that are
not deprecated, which are those that the table of replacements has no row for, its own hints, and
what its sources bring, in this order; a source that fails brings nothing. Those are offered before
which their value does not occur among the candidates. So no value is offered twice, every value of
a candidate is offered, and it is offered as the first candidate has it. A source that fails may be
detached, unless a later one shares its provider. When the sources always bring the same, their
order has no bearing on the values that are offered, nor on what is offered before the first value
that sources alone bring. -/
theorem hintsFor_merges (σ : Store) (n : Nat) (a : Atomic) :
    let own : List Hint := (a.enumeration.elim [] fun e =>
      (e.members.filter (· ∉ e.replacements.map Prod.fst)).map ({ value := · })) ++ a.hints
    let candidates (ss : List Source) := own ++ (σ.bringsAll ss).flatten
    let offered (ss : List Source) := (hintsFor σ (.atomic n { a with sources := ss })).1.1
    (∀ ss, offered ss = Hint.firstOccurrences (candidates ss) ∧
      ((offered ss).map Hint.value).Nodup ∧
      (∀ x, x ∈ (offered ss).map Hint.value ↔ x ∈ (candidates ss).map Hint.value) ∧
      ∀ h ∈ offered ss, (candidates ss).find? (·.value = h.value) = some h) ∧
    (∀ before s after e, ((σ.after before).fetch s).1 = .error e →
      (∀ t ∈ after, t.provider ≠ s.provider) →
      offered (before ++ after) = offered (before ++ s :: after)) ∧
    ∀ ss ts, ts.Perm ss → (∀ s ∈ ss, σ.Steady s) →
      (∀ x, x ∈ (offered ts).map Hint.value ↔ x ∈ (offered ss).map Hint.value) ∧
      (offered ts).takeWhile (·.value ∈ own.map Hint.value) =
        (offered ss).takeWhile (·.value ∈ own.map Hint.value) := by
  intro own candidates offered
  have hoffered (ss : List Source) : offered ss = Hint.firsts (candidates ss) := by
    have hown : ownHints { a with sources := ss } = own := ownHints_eq
    exact hintsFor_fst.trans (by rw [hown])
  refine ⟨fun ss => ?offered, fun before s after e he hafter => ?detached,
    fun ss ts hp hsteady => ⟨fun x => ?values, ?beginning⟩⟩
  case offered =>
    rw [hoffered]
    exact ⟨Hint.firsts_eq_firstOccurrences, Hint.nodup_values_firsts,
      fun x => Hint.mem_values_firsts, fun h hh => Hint.find?_eq_of_mem_firsts hh⟩
  case detached =>
    rw [hoffered, hoffered]
    simp only [candidates, Store.flatten_bringsAll_of_error he hafter]
  case values =>
    have hcandidates : (candidates ts).Perm (candidates ss) :=
      (Store.flatten_bringsAll_perm hp hsteady).append_left own
    rw [hoffered, hoffered, Hint.mem_values_firsts, Hint.mem_values_firsts]
    exact (hcandidates.map Hint.value).mem_iff
  case beginning => rw [hoffered, hoffered, Hint.takeWhile_firsts_append,
    Hint.takeWhile_firsts_append]

/-- Three providers, the second of which is down. -/
def threeProviders : Store :=
  let cache : Provider := .fixed "cache" [{ value := "redis", label := some "Redis" }]
  let down : Provider := { name := "down", answer := fun _ => .fails "connection refused" 0 }
  let platform : Provider := .fixed "platform" [{ value := "mysql" }, { value := "redis" }]
  (((Store.empty.add cache).2.add down).2.add platform).2

/-- A deprecated member, a value that is hinted at under two labels, a source that fails between two
others, and the sources in another order. -/
theorem hintsFor_merges_three :
    let mysql : Hint := { value := "mysql", label := some "MySQL" }
    let a : Atomic := { name := "Service", hints := [mysql],
                        enumeration := some ⟨["pg", "postgres"], [("pg", "postgres")]⟩ }
    let offered (ss : List Source) :=
      (hintsFor threeProviders (.atomic 0 { a with sources := ss })).1.1
    offered [⟨0, 0, 2000⟩, ⟨1, 1, 2000⟩, ⟨2, 2, 2000⟩] =
        [{ value := "postgres" }, mysql, { value := "redis", label := some "Redis" }] ∧
      offered [⟨0, 0, 2000⟩, ⟨2, 2, 2000⟩] =
        offered [⟨0, 0, 2000⟩, ⟨1, 1, 2000⟩, ⟨2, 2, 2000⟩] ∧
      offered [⟨2, 2, 2000⟩, ⟨1, 1, 2000⟩, ⟨0, 0, 2000⟩] =
        [{ value := "postgres" }, mysql, { value := "redis" }] ∧
      ∀ x, x ∈ (offered [⟨2, 2, 2000⟩, ⟨1, 1, 2000⟩, ⟨0, 0, 2000⟩]).map Hint.value ↔
        x ∈ (offered [⟨0, 0, 2000⟩, ⟨1, 1, 2000⟩, ⟨2, 2, 2000⟩]).map Hint.value := by
  intro mysql a offered
  obtain ⟨hoffered, hdetached, hreordered⟩ := hintsFor_merges threeProviders 0 a
  refine ⟨(hoffered _).1.trans (by decide),
    hdetached [⟨0, 0, 2000⟩] ⟨1, 1, 2000⟩ [⟨2, 2, 2000⟩] _ rfl (by decide),
    (hoffered _).1.trans (by decide), (hreordered _ _ (by decide) ?steady).1⟩
  case steady =>
    intro s hs i j
    simp only [List.mem_cons, List.not_mem_nil, or_false] at hs
    obtain rfl | rfl | rfl := hs <;> rfl

end SchemaType

end TypedManifest
