import Mathlib.Tactic.MkIffOfInductiveProp
import TypedManifest.Check.Stream
import TypedManifest.Proofs.Text.Cut
import TypedManifest.Proofs.Text.Segments

/-!
# Texts that hold nothing

A text of blank lines and comments is not read at all: `Text.isIdle` is a shortcut around the
reader, and looks at the lines of the text. What a line is, and what a blank is, is where the two
differ. The shortcut ends a line at a line feed and takes every `White_Space` for a blank; a
document ends its lines at a carriage return as well, and takes all but spaces and tabs for content.

`Text.Bare` says that a text holds nothing, for any lines and blanks: with those of the shortcut it
tells which texts are taken (`Text.isIdle_iff_bare`), with those of a document which have no content
(`Text.Contentless`). The second are among the first, and `Text.contentless_iff` tells what the
shortcut passes over in the others, line by line: blanks in front, and what stands behind a carriage
return in a comment.
-/

namespace TypedManifest.Text

open Yaml

/-! ### Bare texts -/

/-- A line that holds nothing: blanks, and behind them a comment or nothing at all. -/
def IsBareLine (isGap : Char → Bool) (line : List Char) : Prop :=
  ∃ indent rest, line = indent ++ rest ∧ (∀ c ∈ indent, isGap c = true) ∧
    (rest = [] ∨ ∃ note, rest = '#' :: note)

/-- A text that holds nothing, line by line. A line ends before a character that breaks lines, or
with the text. -/
inductive Bare (isBreak isGap : Char → Bool) : List Char → Prop where
  /-- The last line. -/
  | last {line : List Char} : (∀ c ∈ line, isBreak c = false) → IsBareLine isGap line →
      Bare isBreak isGap line
  /-- A line, a break, and other lines. -/
  | line {line rest : List Char} {c : Char} : (∀ c ∈ line, isBreak c = false) →
      IsBareLine isGap line → isBreak c = true → Bare isBreak isGap rest →
      Bare isBreak isGap (line ++ c :: rest)

variable {isBreak isGap : Char → Bool} {cs as bs line : List Char} {c : Char}

/-- A line is bare when the first character that is no blank, if there is one, begins a comment. -/
theorem isBareLine_iff (hgap : isGap '#' = false) :
    IsBareLine isGap line ↔ ∀ c ∈ (line.dropWhile isGap).head?, c = '#' := by
  constructor
  · rintro ⟨indent, rest, rfl, hindent, hrest⟩ c hc
    rw [List.dropWhile_append_of_pos hindent] at hc
    rcases hrest with rfl | ⟨note, rfl⟩
    · nomatch hc
    · rw [List.dropWhile_cons_of_neg (by simp [hgap])] at hc
      exact (Option.some.inj hc).symm
  · intro h
    refine ⟨line.takeWhile isGap, line.dropWhile isGap, List.takeWhile_append_dropWhile.symm,
      fun c hc => List.mem_takeWhile_imp hc, ?_⟩
    cases hrest : line.dropWhile isGap with
    | nil => exact .inl rfl
    | cons c note =>
      rw [hrest] at h
      exact .inr ⟨note, by rw [h c rfl]⟩

theorem bare_of_lines (cs : List Char) (h : ∀ line ∈ cs.splitOnP isBreak, IsBareLine isGap line) :
    Bare isBreak isGap cs := by
  obtain ⟨line, rest, hcut⟩ : ∃ line rest, cutBefore isBreak cs = (line, rest) := ⟨_, _, rfl⟩
  obtain ⟨hcs, hline, hrest⟩ := cutBefore_eq_iff.mp hcut
  cases rest with
  | nil =>
    rw [List.append_nil] at hcs
    subst hcs
    rw [List.splitOnP_eq_singleton hline] at h
    exact .last hline (h cs List.mem_cons_self)
  | cons c rest =>
    have hc : isBreak c = true := hrest c rfl
    have hlength : cs.length = line.length + rest.length + 1 := by
      rw [hcs, List.length_append, List.length_cons, Nat.add_assoc]
    rw [hcs, List.splitOnP_append_cons _ _ hc, List.splitOnP_eq_singleton hline] at h
    rw [hcs]
    exact .line hline (h line List.mem_cons_self) hc
      (bare_of_lines rest fun l hl => h l (List.mem_cons_of_mem _ hl))
termination_by cs.length

/-- A text is bare when each of its lines is. -/
theorem bare_iff : Bare isBreak isGap cs ↔ ∀ line ∈ cs.splitOnP isBreak, IsBareLine isGap line := by
  constructor
  · intro h
    induction h with
    | last hbreak hline =>
      rw [List.splitOnP_eq_singleton hbreak]
      intro line hmem
      rwa [List.mem_singleton.mp hmem]
    | line hbreak hline hc _ ih =>
      rw [List.splitOnP_append_cons _ _ hc, List.splitOnP_eq_singleton hbreak]
      intro line hmem
      rcases List.mem_append.mp hmem with hmem | hmem
      · rwa [List.mem_singleton.mp hmem]
      · exact ih line hmem
  · exact bare_of_lines cs

/-- A break divides a text into two that may be bare or not. -/
theorem bare_append_cons_iff (hc : isBreak c = true) :
    Bare isBreak isGap (as ++ c :: bs) ↔ Bare isBreak isGap as ∧ Bare isBreak isGap bs := by
  simp only [bare_iff, List.splitOnP_append_cons as bs hc, List.mem_append, or_imp, forall_and]

theorem bare_nil : Bare isBreak isGap [] := .last nofun ⟨[], [], rfl, nofun, .inl rfl⟩

/-- In front of a comment, a character of a bare text is a break or a blank. -/
theorem bare_cons_iff (hgap : isGap '#' = false) (hc : c ≠ '#') : Bare isBreak isGap (c :: cs) ↔
    (isBreak c = true ∨ isGap c = true) ∧ Bare isBreak isGap cs := by
  by_cases hb : isBreak c = true
  · have h : Bare isBreak isGap ([] ++ c :: cs) ↔ Bare isBreak isGap [] ∧ Bare isBreak isGap cs :=
      bare_append_cons_iff hb
    rw [← List.nil_append (c :: cs), h, and_iff_right bare_nil, and_iff_right (.inl hb)]
  · obtain ⟨line, others, hcs⟩ := List.exists_cons_of_ne_nil (List.splitOnP_ne_nil isBreak cs)
    have hline : IsBareLine isGap (c :: line) ↔ isGap c = true ∧ IsBareLine isGap line := by
      rw [isBareLine_iff hgap, isBareLine_iff hgap]
      by_cases hg : isGap c = true
      · rw [List.dropWhile_cons_of_pos hg, and_iff_right hg]
      · rw [List.dropWhile_cons_of_neg hg]
        exact iff_of_false (fun h => hc (h c rfl)) fun h => hg h.1
    -- The character goes in front of the first line of the rest.
    rw [bare_iff, bare_iff, List.splitOnP_cons_eq_if_modifyHead, if_neg hb, hcs,
      List.modifyHead_cons]
    simp [hline, hb, and_assoc]

/-- In front of the first comment there are only breaks and blanks. -/
theorem bare_append_iff (hgap : isGap '#' = false) (has : '#' ∉ as) :
    Bare isBreak isGap (as ++ bs) ↔
      (∀ c ∈ as, isBreak c = true ∨ isGap c = true) ∧ Bare isBreak isGap bs := by
  induction as with
  | nil => simp
  | cons c as ih =>
    rw [List.mem_cons, not_or] at has
    rw [List.cons_append, bare_cons_iff hgap (Ne.symm has.1), ih has.2, List.forall_mem_cons,
      and_assoc]

theorem bare_intercalate_iff (hc : isBreak c = true) {segments : List (List Char)}
    (h : segments ≠ []) : Bare isBreak isGap ([c].intercalate segments) ↔
      ∀ segment ∈ segments, Bare isBreak isGap segment := by
  induction segments with
  | nil => exact absurd rfl h
  | cons segment segments ih =>
    cases segments with
    | nil => simp
    | cons next segments =>
      have hothers := ih (List.cons_ne_nil next segments)
      rw [List.intercalate_cons_cons, List.append_assoc, List.singleton_append,
        bare_append_cons_iff hc, hothers]
      exact List.forall_mem_cons.symm

/-- A text may be cut at any character that breaks lines. -/
theorem bare_iff_splitOn (hc : isBreak c = true) :
    Bare isBreak isGap cs ↔ ∀ segment ∈ cs.splitOn c, Bare isBreak isGap segment := by
  rw [← bare_intercalate_iff hc (List.splitOn_ne_nil c cs), List.intercalate_splitOn]

/-! ### The shortcut -/

theorem isIdleLine_iff : isIdleLine line = true ↔ IsBareLine isBlank line := by
  rw [isBareLine_iff (by decide), isIdleLine, trimStart]
  cases line.dropWhile isBlank <;> simp

theorem isIdle_iff_lines {text : String} :
    isIdle text = true ↔ ∀ line ∈ text.toList.splitOn '\n', IsBareLine isBlank line := by
  rw [isIdle, List.all_eq_true]
  exact forall₂_congr fun _ _ => isIdleLine_iff

/-- The shortcut takes the texts that hold nothing, if lines end at line feeds only and every blank
counts. -/
theorem isIdle_iff_bare {text : String} :
    isIdle text = true ↔ Bare (· == '\n') isBlank text.toList := by
  rw [isIdle_iff_lines, bare_iff, List.splitOn_eq_splitOnP]

/-! ### Texts without content -/

/-- A line feed or a carriage return. A carriage return in front of a line feed counts as a break of
its own, with nothing in the line between them. -/
def breaksLine (c : Char) : Bool := c == '\n' || c == '\r'

/-- A space or a tab. -/
def isSpace (c : Char) : Bool := c == ' ' || c == '\t'

/-- The text holds nothing but line breaks, spaces and tabs, and comments. A comment begins with the
first character of a line that is no space or tab, and goes on to the end of the line. -/
def Contentless (cs : List Char) : Prop := Bare breaksLine isSpace cs

theorem all_lines_eq_true_iff : (cs.splitOnP breaksLine).all (fun line =>
    (line.dropWhile isSpace).head?.all (· == '#')) = true ↔ Contentless cs := by
  rw [Contentless, bare_iff, List.all_eq_true]
  refine forall₂_congr fun line _ => ?_
  rw [isBareLine_iff (by decide), Option.all_eq_true]
  simp

instance : DecidablePred Contentless := fun _ => decidable_of_iff _ all_lines_eq_true_iff

theorem contentless_nil : Contentless [] := bare_nil

/-- A break in front of a text adds no content. -/
theorem contentless_break_cons_iff (hc : breaksLine c = true) :
    Contentless (c :: cs) ↔ Contentless cs := by
  have hhash : c ≠ '#' := by
    rintro rfl
    nomatch hc
  rw [Contentless, bare_cons_iff (by decide) hhash]
  exact and_iff_right (.inl hc)

/-- A comment goes on to the first carriage return, and what follows that one is text again. -/
theorem contentless_comment_iff {note : List Char} (hnote : '\n' ∉ note) :
    Contentless ('#' :: note) ↔ Contentless (('#' :: note).dropWhile (· != '\r')) := by
  obtain ⟨first, rest, hcut⟩ : ∃ first rest, cutBefore (· == '\r') note = (first, rest) :=
    ⟨_, _, rfl⟩
  have hdrop : ('#' :: note).dropWhile (· != '\r') = rest := congrArg Prod.snd hcut
  obtain ⟨rfl, hfirst, hrest⟩ := cutBefore_eq_iff.mp hcut
  have hbreak : ∀ c ∈ '#' :: first, breaksLine c = false := by
    intro c hc
    rcases List.mem_cons.mp hc with rfl | hc
    · rfl
    · have hfeed : c ≠ '\n' := ne_of_mem_of_not_mem (List.mem_append_left rest hc) hnote
      rw [breaksLine, hfirst c hc, Bool.or_false]
      exact beq_eq_false_iff_ne.mpr hfeed
  have hcomment : Contentless ('#' :: first) :=
    .last hbreak ⟨[], '#' :: first, rfl, nofun, .inr ⟨first, rfl⟩⟩
  rw [hdrop]
  cases rest with
  | nil =>
    rw [List.append_nil]
    exact iff_of_true hcomment contentless_nil
  | cons c rest =>
    have hc : breaksLine c = true := by
      rw [breaksLine, hrest c rfl, Bool.or_true]
    rw [contentless_break_cons_iff hc, ← List.cons_append, Contentless, bare_append_cons_iff hc]
    exact and_iff_right hcomment

/-! ### What the shortcut passes over -/

/-- Breaks and spaces are blanks. -/
theorem isBlank_of_breaksLine_or_isSpace (hc : breaksLine c = true ∨ isSpace c = true) :
    isBlank c = true := by
  simp only [breaksLine, isSpace, Bool.or_eq_true, beq_iff_eq] at hc
  rcases hc with (rfl | rfl) | (rfl | rfl) <;> decide

/-- A line of the shortcut with no content where the shortcut does not look: in front there are only
spaces, tabs and carriage returns, and nothing with content stands behind the first carriage return
of what follows. -/
@[mk_iff]
structure HidesNothing (line : List Char) : Prop where
  /-- In front. -/
  indent : ∀ c ∈ line.takeWhile isBlank, breaksLine c = true ∨ isSpace c = true
  /-- Behind a carriage return. -/
  comment : Contentless ((line.dropWhile isBlank).dropWhile (· != '\r'))

/-- Content is either seen by the shortcut or hidden from it. -/
theorem contentless_iff_of_line (hline : '\n' ∉ line) :
    Contentless line ↔ IsBareLine isBlank line ∧ HidesNothing line := by
  have hhash : '#' ∉ line.takeWhile isBlank := fun h => nomatch List.mem_takeWhile_imp h
  have hcut : Contentless (line.takeWhile isBlank ++ line.dropWhile isBlank) ↔
      (∀ c ∈ line.takeWhile isBlank, breaksLine c = true ∨ isSpace c = true) ∧
        Contentless (line.dropWhile isBlank) := bare_append_iff (by decide) hhash
  rw [List.takeWhile_append_dropWhile] at hcut
  rw [hcut, isBareLine_iff (by decide), hidesNothing_iff]
  cases hrest : line.dropWhile isBlank with
  | nil => simp
  | cons c note =>
    by_cases hc : c = '#'
    · subst hc
      have hnote : '\n' ∉ note := fun h =>
        hline (List.dropWhile_subset _ (hrest ▸ List.mem_cons_of_mem _ h))
      have hhead : ∀ c ∈ ('#' :: note).head?, c = '#' := fun c hc => (Option.some.inj hc).symm
      rw [contentless_comment_iff hnote, and_iff_right hhead]
    · -- What stands behind the blanks is content, for the shortcut and for the document.
      have hblank : ¬isBlank c = true := by
        have h := List.head?_dropWhile_not isBlank line
        rw [hrest] at h
        simpa using h
      have hcontent : ¬Contentless (c :: note) := by
        rw [Contentless, bare_cons_iff (by decide) hc]
        exact fun h => hblank (isBlank_of_breaksLine_or_isSpace h.1)
      exact iff_of_false (fun h => hcontent h.2) fun h => hc (h.1 c rfl)

/-- A line that ends in its only carriage return, if it has one, and has no blanks but those of a
document. -/
def IsPlain (line : List Char) : Prop :=
  '\r' ∉ line.dropLast ∧ ∀ c ∈ line, isBlank c = true → breaksLine c = true ∨ isSpace c = true

instance : DecidablePred IsPlain := fun line =>
  have : Decidable (∀ c ∈ line, isBlank c = true → breaksLine c = true ∨ isSpace c = true) :=
    List.decidableBAll _ line
  instDecidableAnd

theorem IsPlain.hidesNothing (h : IsPlain line) : HidesNothing line := by
  obtain ⟨hreturn, hblanks⟩ := h
  refine ⟨fun c hc => hblanks c (List.takeWhile_subset _ hc) (List.mem_takeWhile_imp hc), ?_⟩
  obtain hnil | ⟨front, last, hrest⟩ := List.eq_nil_or_concat (line.dropWhile isBlank)
  · rw [hnil]
    exact contentless_nil
  · rw [List.concat_eq_append] at hrest
    obtain ⟨indent, hline⟩ : line.dropWhile isBlank <:+ line := List.dropWhile_suffix isBlank
    rw [← hline, hrest, ← List.append_assoc, List.dropLast_concat] at hreturn
    have hfront : ∀ c ∈ front, (c != '\r') = true := fun c hc =>
      bne_iff_ne.mpr (ne_of_mem_of_not_mem (List.mem_append_right indent hc) hreturn)
    -- All but the last character are passed over, so at most a carriage return is left.
    rw [hrest, List.dropWhile_append_of_pos hfront]
    by_cases hlast : last = '\r'
    · subst hlast
      exact (contentless_break_cons_iff rfl).mpr contentless_nil
    · rw [List.dropWhile_cons, if_pos (bne_iff_ne.mpr hlast)]
      exact contentless_nil

/-- A text without content is one that the shortcut takes, and that hides nothing from it. -/
theorem contentless_iff {text : String} : Contentless text.toList ↔
    isIdle text = true ∧ ∀ line ∈ text.toList.splitOn '\n', HidesNothing line := by
  calc Contentless text.toList
      ↔ ∀ line ∈ text.toList.splitOn '\n', Contentless line := bare_iff_splitOn rfl
    _ ↔ ∀ line ∈ text.toList.splitOn '\n', IsBareLine isBlank line ∧ HidesNothing line :=
        forall₂_congr fun line hline => contentless_iff_of_line (not_mem_of_mem_splitOn hline)
    _ ↔ _ := by rw [isIdle_iff_lines, ← forall₂_and]

/-- A text without content is checked as no document, whatever the schema. -/
theorem checkText_of_contentless {text : String} (S : Schema) (σ : Store)
    (h : Contentless text.toList) : S.checkText σ text = S.checkDocuments σ [] := by
  rw [Schema.checkText, if_pos (contentless_iff.mp h).1]

/-- **The shortcut passes over content in two places only.** It takes the texts of blanks and
comments, for lines that end at line feeds and blanks of any kind. Such a text is without content
when nothing is hidden in any of its lines, neither by a blank in front nor by a carriage return in
a comment. So a text without lone carriage returns, and without blanks but spaces and tabs, is taken
when it has no content and only then. -/
theorem isIdle_versus_contentless (text : String) :
    (isIdle text = true ↔ Bare (· == '\n') isBlank text.toList) ∧
    (Contentless text.toList ↔
      isIdle text = true ∧ ∀ line ∈ text.toList.splitOn '\n', HidesNothing line) ∧
    ((∀ line ∈ text.toList.splitOn '\n', IsPlain line) →
      (isIdle text = true ↔ Contentless text.toList)) := by
  refine ⟨isIdle_iff_bare, contentless_iff, fun hplain => ?_⟩
  rw [contentless_iff, iff_self_and]
  exact fun _ line hline => (hplain line hline).hidesNothing

/-- A text with all that is allowed in front of comments. -/
theorem isIdle_versus_contentless_plain : Contentless "# first\r\n\r\n \t# second\n".toList := by
  obtain ⟨-, -, hplain⟩ := isIdle_versus_contentless "# first\r\n\r\n \t# second\n"
  exact (hplain (by decide)).mp (by decide)

/-- The shortcut takes a mapping for a part of the comment in front of it, and a scalar for a blank
line. -/
theorem idle_although_content :
    (isIdle "# note\rmemory: 1G\n" = true ∧ ¬Contentless "# note\rmemory: 1G\n".toList ∧
      (Value.readStream "# note\rmemory: 1G\n").toOption =
        some [.mapping [(.string "memory", .string "1G")]]) ∧
    (isIdle "\u00a0\n" = true ∧ ¬Contentless "\u00a0\n".toList ∧
      (Value.readStream "\u00a0\n").toOption = some [.string "\u00a0"]) := by
  decide +kernel

end TypedManifest.Text
