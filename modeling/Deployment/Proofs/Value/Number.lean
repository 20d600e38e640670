import Deployment.Proofs.Text.Decimal
import Deployment.Value.Number

/-!
# Proofs/Value/Number — the texts of numbers

No text of a number holds a colon or a slash.  That of a double-precision number has a point or an
exponent (`pointed_floatText`), so that it is not the text of an integer.
-/

namespace Deployment

namespace Text

/-- Whether characters are neither a colon nor a slash. -/
def Unbroken (cs : List Char) : Prop := ∀ c ∈ cs, c ≠ ':' ∧ c ≠ '/'

instance (cs : List Char) : Decidable (Unbroken cs) := List.decidableBAll _ cs

theorem unbroken_append {as bs : List Char} : Unbroken (as ++ bs) ↔ Unbroken as ∧ Unbroken bs :=
  List.forall_mem_append

theorem unbroken_cons {c : Char} {cs : List Char} :
    Unbroken (c :: cs) ↔ (c ≠ ':' ∧ c ≠ '/') ∧ Unbroken cs :=
  List.forall_mem_cons

theorem unbroken_replicate {n : Nat} {c : Char} (h : c ≠ ':' ∧ c ≠ '/') :
    Unbroken (List.replicate n c) := fun _ hd => List.eq_of_mem_replicate hd ▸ h

theorem unbroken_toDigits (n : Nat) : Unbroken (Nat.toDigits 10 n) := by
  intro c hc
  have hdigit := (isDecimal_toDigits n).digits c hc
  refine ⟨?_, ?_⟩
  · rintro rfl
    exact absurd hdigit (by decide)
  · rintro rfl
    exact absurd hdigit (by decide)

/-- **A plain text with a point or an exponent.** -/
structure Pointed (cs : List Char) : Prop where
  plain : Unbroken cs
  mark : ∃ c ∈ cs, c = '.' ∨ c = 'e'

/-- A point or an exponent between plain texts marks the whole. -/
theorem pointed_append_cons {as bs : List Char} {c : Char} (hc : c = '.' ∨ c = 'e')
    (ha : Unbroken as) (hb : Unbroken bs) : Pointed (as ++ c :: bs) where
  plain := by
    refine unbroken_append.2 ⟨ha, unbroken_cons.2 ⟨?_, hb⟩⟩
    rcases hc with rfl | rfl <;> decide
  mark := ⟨c, by simp, hc⟩

theorem Pointed.append {as bs : List Char} (ha : Unbroken as) (hb : Pointed bs) :
    Pointed (as ++ bs) where
  plain := unbroken_append.2 ⟨ha, hb.plain⟩
  mark := by
    obtain ⟨c, hc, hmark⟩ := hb.mark
    exact ⟨c, List.mem_append_right as hc, hmark⟩

end Text

open Text (Unbroken unbroken_append unbroken_cons unbroken_replicate unbroken_toDigits Pointed
  pointed_append_cons)

namespace Binary64

theorem pointed_pointAfter {ds : List Char} (h : Unbroken ds) (n : Nat) :
    Pointed (pointAfter n ds) :=
  pointed_append_cons (Or.inl rfl) (fun c hc => h c (List.mem_of_mem_take hc))
    fun c hc => h c (List.mem_of_mem_drop hc)

/-- **The digits of a number are written with a point or an exponent**, wherever a layout puts
them. -/
theorem pointed_digits {l : Layout} (hplus : Unbroken l.plus.toList) {ds : List Char}
    (hds : Unbroken ds) (k : Int) : Pointed (l.digits ds k).toList := by
  have hzeros (n : Nat) : Unbroken (List.replicate n '0') := unbroken_replicate (by decide)
  have hmantissa : Unbroken (if ds.length ≤ 1 then ds else pointAfter 1 ds) := by
    split
    · exact hds
    · exact (pointed_pointAfter hds 1).plain
  have hsign (lead : Int) : Unbroken (if lead < 0 then "-" else l.plus).toList := by
    split
    · decide +kernel
    · exact hplus
  rw [Layout.digits]
  split
  · split
    · rw [String.toList_ofList]
      exact pointed_append_cons (Or.inl rfl) (unbroken_append.2 ⟨hds, hzeros _⟩) (hzeros 1)
    · split
      · rw [String.toList_ofList]
        exact pointed_pointAfter hds _
      · rw [String.toList_ofList]
        exact pointed_append_cons (Or.inl rfl) (hzeros 1) (unbroken_append.2 ⟨hzeros _, hds⟩)
  · rw [String.toList_append, String.toList_append, String.toList_append, String.toList_ofList,
      String.toList_ofList, String.toList_ofList, List.append_assoc, List.append_assoc,
      List.singleton_append]
    exact pointed_append_cons (Or.inr rfl) hmantissa
      (unbroken_append.2 ⟨hsign _, unbroken_toDigits _⟩)

end Binary64

namespace Number

/-- **The text of a double-precision number is written with a point or an exponent.** -/
theorem pointed_floatText (x : Binary64) : Pointed (floatText x).toList := by
  have hsign : Unbroken (if x.isNegative then "-" else "").toList := by
    split <;> decide +kernel
  rw [floatText]
  split
  · exact ⟨by decide +kernel, '.', by decide +kernel, Or.inl rfl⟩
  · split
    · split
      · exact ⟨by decide +kernel, '.', by decide +kernel, Or.inl rfl⟩
      · exact ⟨by decide +kernel, '.', by decide +kernel, Or.inl rfl⟩
    · rw [Binary64.Layout.text]
      split
      · rw [String.toList_append]
        exact Text.Pointed.append hsign ⟨by decide +kernel, '.', by decide +kernel, Or.inl rfl⟩
      · rw [String.toList_append]
        exact Text.Pointed.append hsign
          (Binary64.pointed_digits (by decide +kernel) (unbroken_toDigits _) _)

/-- The text of an integer is its digits, behind a minus sign if it is negative. -/
theorem toList_text_int (i : Int) :
    (text (.int i)).toList = (if i < 0 then ['-'] else []) ++ Nat.toDigits 10 i.natAbs := by
  rw [text, Text.intText]
  split <;> simp [Text.natText]

end Number

end Deployment
