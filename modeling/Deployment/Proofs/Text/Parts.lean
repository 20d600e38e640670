import Mathlib.Data.List.TakeWhile
import Deployment.Text.Blank
import Deployment.Text.Split

/-!
# Proofs/Text/Parts — the parts that a text is cut into

What is behind the last of a character, before the first of one or between the blanks at the two
ends is said here without the scan that finds it (`BehindLast`, `BeforeFirst`, `Trimmed`), and each
scan finds that part and no other (`afterLast_eq_iff`, `beforeFirst_eq_iff`, `trimChars_eq_iff`).
-/

namespace Deployment.Text

/-! ## At a character

Cutting from the right is cutting the reversed text from the left, so the second half of these
lemmas follows from the first. -/

/-- **The part of a text before the first of a character**, or the whole text where there is
none. -/
structure BeforeFirst (sep : Char) (part cs : List Char) : Prop where
  clear : sep ∉ part
  cut : cs = part ∨ ∃ behind, cs = part ++ sep :: behind

/-- **The part of a text behind the last of a character**, or the whole text where there is
none. -/
structure BehindLast (sep : Char) (part cs : List Char) : Prop where
  clear : sep ∉ part
  cut : cs = part ∨ ∃ before, cs = before ++ sep :: part

theorem beforeFirst_of_not_mem {sep : Char} {cs : List Char} (h : sep ∉ cs) :
    beforeFirst sep cs = cs :=
  List.takeWhile_eq_self_iff.2 fun _ hc => decide_eq_true fun heq => h (heq ▸ hc)

/-- Only what stands before the first one matters. -/
theorem beforeFirst_append {sep : Char} (as bs : List Char) :
    beforeFirst sep (as ++ sep :: bs) = beforeFirst sep as := by
  induction as with
  | nil => simp [beforeFirst]
  | cons a as ih =>
    simp only [beforeFirst, List.cons_append, List.takeWhile_cons] at ih ⊢
    rw [ih]

/-- **The part before the first of a character is found.** -/
theorem beforeFirst_eq_iff {sep : Char} {part cs : List Char} :
    beforeFirst sep cs = part ↔ BeforeFirst sep part cs := by
  constructor
  · rintro rfl
    refine ⟨fun hmem => ?_, ?_⟩
    · simpa using List.mem_takeWhile_imp hmem
    · induction cs with
      | nil => exact Or.inl rfl
      | cons c cs ih =>
        by_cases hc : c = sep
        · exact Or.inr ⟨cs, by simp [beforeFirst, hc]⟩
        · have hcons : beforeFirst sep (c :: cs) = c :: beforeFirst sep cs :=
            List.takeWhile_cons_of_pos (decide_eq_true hc)
          rw [hcons]
          exact ih.imp (congrArg _) fun ⟨behind, h⟩ => ⟨behind, congrArg _ h⟩
  · rintro ⟨hclear, rfl | ⟨behind, rfl⟩⟩
    · exact beforeFirst_of_not_mem hclear
    · rw [beforeFirst_append, beforeFirst_of_not_mem hclear]

/-- Behind the last is before the first of the text read backwards. -/
theorem afterLast_eq (sep : Char) (cs : List Char) :
    afterLast sep cs = (beforeFirst sep cs.reverse).reverse := rfl

/-- Read backwards, the first one is the last. -/
theorem beforeFirst_reverse_iff {sep : Char} {part cs : List Char} :
    BeforeFirst sep part.reverse cs.reverse ↔ BehindLast sep part cs := by
  constructor
  · rintro ⟨hclear, hcut⟩
    refine ⟨by simpa using hclear, hcut.imp List.reverse_inj.1 ?_⟩
    rintro ⟨behind, h⟩
    exact ⟨behind.reverse, by simpa using congrArg List.reverse h⟩
  · rintro ⟨hclear, hcut⟩
    refine ⟨by simpa using hclear, hcut.imp (congrArg _) ?_⟩
    rintro ⟨before, h⟩
    exact ⟨before.reverse, by simp [h]⟩

/-- **The part behind the last of a character is found.** -/
theorem afterLast_eq_iff {sep : Char} {part cs : List Char} :
    afterLast sep cs = part ↔ BehindLast sep part cs := by
  rw [afterLast_eq, List.reverse_eq_iff, beforeFirst_eq_iff, beforeFirst_reverse_iff]

/-- What is before a character plays no part behind the last one. -/
theorem afterLast_append {sep : Char} (as bs : List Char) :
    afterLast sep (as ++ sep :: bs) = afterLast sep bs := by
  have hreverse : (as ++ sep :: bs).reverse = bs.reverse ++ sep :: as.reverse := by simp
  rw [afterLast_eq, hreverse, beforeFirst_append, afterLast_eq]

/-- What has no such character is behind the last one. -/
theorem afterLast_append_of_not_mem {sep : Char} (as : List Char) {bs : List Char}
    (h : sep ∉ bs) : afterLast sep (as ++ bs) = afterLast sep as ++ bs := by
  obtain ⟨hclear, hcut⟩ := afterLast_eq_iff.1 (rfl : afterLast sep as = _)
  refine afterLast_eq_iff.2 ⟨by simp [hclear, h], ?_⟩
  rcases hcut with hwhole | ⟨before, hbefore⟩
  · exact Or.inl (congrArg (· ++ bs) hwhole)
  · refine Or.inr ⟨before, ?_⟩
    rw [← List.cons_append, ← List.append_assoc, ← hbefore]

/-! ## At the ends

Trimming is described by what it leaves: a text with no blank at its ends, from which only blanks
were cut. -/

/-- **The part of a text between the blanks** at its two ends. -/
structure Trimmed (core cs : List Char) : Prop where
  cut : ∃ before behind, cs = before ++ core ++ behind ∧
    (∀ c ∈ before, isBlank c = true) ∧ ∀ c ∈ behind, isBlank c = true
  head : ∀ c ∈ core.head?, isBlank c = false
  last : ∀ c ∈ core.getLast?, isBlank c = false

/-- Blanks in front are cut away. -/
theorem trimStart_append {before cs : List Char} (h : ∀ c ∈ before, isBlank c = true) :
    trimStart (before ++ cs) = trimStart cs := List.dropWhile_append_of_pos h

theorem trimStart_of_head {cs : List Char} (h : ∀ c ∈ cs.head?, isBlank c = false) :
    trimStart cs = cs := by
  cases cs with
  | nil => rfl
  | cons c cs => exact List.dropWhile_cons_of_neg (by simp [h c rfl])

/-- What is dropped at the front is blank, and what stays does not begin with a blank. -/
theorem trimStart_cut (cs : List Char) :
    (∃ before, cs = before ++ trimStart cs ∧ ∀ c ∈ before, isBlank c = true) ∧
      ∀ c ∈ (trimStart cs).head?, isBlank c = false := by
  refine ⟨⟨cs.takeWhile isBlank, List.takeWhile_append_dropWhile.symm, fun c hc =>
    List.mem_takeWhile_imp hc⟩, fun c hc => ?_⟩
  have hnot := List.head?_dropWhile_not isBlank cs
  rw [← trimStart, Option.mem_def.1 hc] at hnot
  exact hnot

/-- The end is trimmed as the start of the reversed text. -/
theorem trimEnd_eq (cs : List Char) : trimEnd cs = (trimStart cs.reverse).reverse := rfl

/-- What is cut from the end are blanks, and all of them. -/
theorem trimEnd_cut (cs : List Char) :
    (∃ behind, cs = trimEnd cs ++ behind ∧ ∀ c ∈ behind, isBlank c = true) ∧
      ∀ c ∈ (trimEnd cs).getLast?, isBlank c = false := by
  obtain ⟨⟨before, hcut, hblank⟩, hhead⟩ := trimStart_cut cs.reverse
  refine ⟨⟨before.reverse, ?_, by simpa using hblank⟩, ?_⟩
  · simpa [trimEnd_eq] using congrArg List.reverse hcut
  · simpa [trimEnd_eq] using hhead

theorem trimEnd_append {cs behind : List Char} (h : ∀ c ∈ behind, isBlank c = true) :
    trimEnd (cs ++ behind) = trimEnd cs := by
  rw [trimEnd_eq, List.reverse_append, trimStart_append (by simpa using h), trimEnd_eq]

theorem trimEnd_of_last {cs : List Char} (h : ∀ c ∈ cs.getLast?, isBlank c = false) :
    trimEnd cs = cs := by
  rw [trimEnd_eq, trimStart_of_head (by simpa using h), List.reverse_reverse]

/-- **The part between the blanks is found.** -/
theorem trimChars_eq_iff {core cs : List Char} : trimChars cs = core ↔ Trimmed core cs := by
  constructor
  · rintro rfl
    obtain ⟨⟨before, hbefore, hblank⟩, hhead⟩ := trimStart_cut cs
    obtain ⟨⟨behind, hbehind, hblank'⟩, hlast⟩ := trimEnd_cut (trimStart cs)
    refine ⟨⟨before, behind, ?_, hblank, hblank'⟩, fun c hc => hhead c ?_, hlast⟩
    · rw [trimChars, List.append_assoc, ← hbehind, ← hbefore]
    · rw [hbehind, List.head?_append]
      exact Option.or_eq_some_iff.2 (Or.inl hc)
  · rintro ⟨⟨before, behind, rfl, hblank, hblank'⟩, hhead, hlast⟩
    rw [trimChars, List.append_assoc, trimStart_append hblank]
    cases core with
    | nil =>
      have hnil : trimStart behind = [] := List.dropWhile_eq_nil_iff.2 hblank'
      rw [List.nil_append, hnil]
      rfl
    | cons c core =>
      rw [trimStart_of_head (by simpa using hhead), trimEnd_append hblank', trimEnd_of_last hlast]

end Deployment.Text
