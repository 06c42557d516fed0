import Mathlib.Data.String.Basic
import TypedManifest.Text.Cut

/-!
# Upper and lower case

Case is folded for the letters of ASCII alone: a letter in upper case is the fold of itself and of
the letter in lower case, which stands 32 code points behind it, and of nothing else. A mark is the
fold of itself alone, and no fold changes how long a text is in UTF-8.
-/

namespace TypedManifest.Text

theorem toNat_toUpper (c : Char) : c.toUpper.toNat =
    if 97 ≤ c.toNat ∧ c.toNat ≤ 122 then c.toNat - 32 else c.toNat := by
  have hiff : (97 ≤ c.toNat ∧ c.toNat ≤ 122) ↔ 'a'.val ≤ c.val ∧ c.val ≤ 'z'.val := Iff.rfl
  unfold Char.toUpper
  split
  · next h =>
    rw [if_pos (hiff.mpr h)]
    have hlo : 97 ≤ c.toNat := h.1
    have hhi : c.toNat ≤ 122 := h.2
    -- The distance between the cases is subtracted by adding it in the negative, modulo 2 ^ 32.
    change (c.val + ('A'.val - 'a'.val)).toNat = _
    rw [UInt32.toNat_add]
    change (c.toNat + 4294967264) % 4294967296 = _
    omega
  · next h => rw [if_neg (mt hiff.mp h)]

/-- One letter of ASCII is folded to another when it is that letter or the same in lower case. -/
theorem toUpper_eq_iff {c capital small : Char} (hcapital : capital.isUpper = true)
    (hsmall : small.toNat = capital.toNat + 32) :
    c.toUpper = capital ↔ c = capital ∨ c = small := by
  have hrange : 65 ≤ capital.toNat ∧ capital.toNat ≤ 90 := of_decide_eq_true hcapital
  rw [← Char.toNat_inj, ← Char.toNat_inj, ← Char.toNat_inj, toNat_toUpper, hsmall]
  split <;> omega

theorem toNat_toLower (c : Char) : c.toLower.toNat =
    if 65 ≤ c.toNat ∧ c.toNat ≤ 90 then c.toNat + 32 else c.toNat := by
  have hiff : (65 ≤ c.toNat ∧ c.toNat ≤ 90) ↔ 'A'.val ≤ c.val ∧ c.val ≤ 'Z'.val := Iff.rfl
  unfold Char.toLower
  split
  · next h =>
    rw [if_pos (hiff.mpr h)]
    have hhi : c.toNat ≤ 90 := h.2
    change (c.val + ('a'.val - 'A'.val)).toNat = _
    rw [UInt32.toNat_add]
    change (c.toNat + 32) % 4294967296 = _
    omega
  · next h => rw [if_neg (mt hiff.mp h)]

/-- Nothing but itself is folded to a character that is no letter of ASCII. -/
theorem toLower_eq_iff_of_lt {c mark : Char} (hmark : mark.toNat < 65) :
    c.toLower = mark ↔ c = mark := by
  rw [← Char.toNat_inj, ← Char.toNat_inj, toNat_toLower]
  split <;> omega

/-- Folding keeps the length of a text in UTF-8. -/
theorem utf8Size_toLower (c : Char) : c.toLower.utf8Size = c.utf8Size := by
  by_cases h : 65 ≤ c.toNat ∧ c.toNat ≤ 90
  · have hlower : c.toLower.toNat = c.toNat + 32 := by rw [toNat_toLower, if_pos h]
    have hone {d : Char} (hd : d.toNat ≤ 127) : d.utf8Size = 1 := Char.utf8Size_eq_one_iff.mpr hd
    rw [hone (by omega), hone (by omega)]
  · have hsame : c.toLower = c := by
      rw [← Char.toNat_inj, toNat_toLower, if_neg h]
    rw [hsame]

theorem utf8Len_lower (cs : List Char) : String.utf8Len (lower cs) = String.utf8Len cs := by
  induction cs with
  | nil => rfl
  | cons c cs ih =>
    rw [lower, List.map_cons, String.utf8Len_cons, String.utf8Len_cons, utf8Size_toLower, ← lower,
      ih]

end TypedManifest.Text
