import TypedManifest.Proofs.Hint.Request
import TypedManifest.Schema.Completion

/-!
# What is offered for a type

Of several hints for one value only the first is offered, which takes no value away
(`mem_values_firsts`). A type with a single source of hints, and none of its own, offers what the
source brings.
-/

namespace TypedManifest

namespace Hint

variable {hs : List Hint} {x : String}

theorem mem_values_firstsExcept {seen : List String} :
    x ∈ (firstsExcept seen hs).map value ↔ x ∈ hs.map value ∧ x ∉ seen := by
  induction hs generalizing seen with
  | nil => simp [firstsExcept]
  | cons h hs ih =>
    unfold firstsExcept
    by_cases hm : h.value ∈ seen
    · simp only [List.contains_iff_mem.mpr hm, if_true, ih, List.map_cons, List.mem_cons]
      constructor
      · exact fun ⟨hx, hn⟩ => ⟨.inr hx, hn⟩
      · rintro ⟨rfl | hx, hn⟩
        · exact absurd hm hn
        · exact ⟨hx, hn⟩
    · simp only [List.contains_iff_mem, hm, if_false, List.map_cons, List.mem_cons, ih]
      by_cases hx : x = h.value
      · simp [hx, hm]
      · simp [hx]

/-- Every value that is hinted at is offered, and no other. -/
theorem mem_values_firsts : x ∈ (firsts hs).map value ↔ x ∈ hs.map value := by
  simp only [firsts, mem_values_firstsExcept, List.not_mem_nil, not_false_eq_true, and_true]

theorem nodup_values_firstsExcept {seen : List String} :
    ((firstsExcept seen hs).map value).Nodup := by
  induction hs generalizing seen with
  | nil => exact List.nodup_nil
  | cons h hs ih =>
    unfold firstsExcept
    split
    · exact ih
    · rw [List.map_cons, List.nodup_cons, mem_values_firstsExcept]
      exact ⟨fun hmem => hmem.2 List.mem_cons_self, ih⟩

/-- No value is offered twice. -/
theorem nodup_values_firsts : ((firsts hs).map value).Nodup := nodup_values_firstsExcept

end Hint

namespace SchemaType

variable {σ : Store} {n : Nat} {a : Atomic}

theorem hintsFor_snd : (hintsFor σ (.atomic n a)).2 =
    a.sources.foldl (fun σ s => (σ.fetch s).2) σ := by
  simp only [hintsFor, Store.hintsOfAll_snd]

/-- What a type offers when its one source brings hints. -/
theorem hintsFor_of_fetch {source : Source} {hints : List Hint} (ho : ownHints a = [])
    (hs : a.sources = [source]) (hf : (σ.fetch source).1 = .ok hints) :
    (hintsFor σ (.atomic n a)).1.1 = Hint.firsts hints := by
  simp only [hintsFor, hs, Store.hintsOfAll, Store.hints_eq, hf, ho, List.nil_append,
    List.append_nil]

end SchemaType

end TypedManifest
