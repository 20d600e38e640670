import Deployment.Hostname.Fragment
import Deployment.Proofs.Outcome
import Deployment.Text.Ascii

/-!
# Proofs/Hostname/Grammar — which texts are host names

`Hostname.Grammar` states the rules of host names without the order in which they are checked.
`ofString_eq_ok_iff`: a text is taken as a host name when it keeps the rules, and is kept as it is.
-/

namespace Deployment.Hostname

/-! ## Labels

The program refuses a label at the first rule that it breaks. It is accepted when it keeps them all,
in whatever order they are looked at. -/

/-- **The rules of a label**: 1 to 63 letters, digits and hyphens, no hyphen at either end. -/
structure IsLabel (label : List Char) : Prop where
  nonempty : 1 ≤ label.length
  short : label.length ≤ 63
  chars : ∀ c ∈ label, c.isAlphanum = true ∨ c = '-'
  head : label.head? ≠ some '-'
  last : label.getLast? ≠ some '-'

/-- The characters of labels are the letters and digits of ASCII and the hyphen. -/
theorem isLabelChar_iff {c : Char} : isLabelChar c = true ↔ c.isAlphanum = true ∨ c = '-' := by
  simp [isLabelChar]

/-- The characters of labels have one byte. -/
theorem utf8Size_of_isLabelChar {c : Char} (h : isLabelChar c = true) : c.utf8Size = 1 := by
  rcases isLabelChar_iff.1 h with h | rfl
  · exact Text.utf8Size_of_isAlphanum h
  · rfl

/-- A hyphen at an edge is a first or a last one. -/
theorem not_hasEdgeHyphen_iff {label : List Char} :
    ¬ hasEdgeHyphen label = true ↔ label.head? ≠ some '-' ∧ label.getLast? ≠ some '-' := by
  simp [hasEdgeHyphen]

/-- A label is checked for its length, its characters and its ends. -/
theorem checkLabel_eq_ok_iff_checks {label : List Char} :
    checkLabel label = .ok () ↔
      ¬ label.isEmpty = true ∧ ¬ maxLabelBytes < (String.ofList label).utf8ByteSize ∧
        (∀ c ∈ label, isLabelChar c = true) ∧ ¬ hasEdgeHyphen label = true := by
  rw [checkLabel, Outcome.guard_eq_ok, Outcome.guard_eq_ok]
  refine and_congr_right fun _ => and_congr_right fun _ => ?_
  split
  · rename_i c hc
    have hmem := List.mem_of_find?_eq_some hc
    have hbad : isLabelChar c = false := by simpa using List.find?_some hc
    refine ⟨nofun, fun ⟨h, _⟩ => ?_⟩
    rw [h c hmem] at hbad
    exact nomatch hbad
  · rename_i hnone
    have hall : ∀ c ∈ label, isLabelChar c = true := by
      simpa using List.find?_eq_none.1 hnone
    rw [Outcome.guard_eq_ok]
    exact ⟨fun h => ⟨hall, h.1⟩, fun h => ⟨h.2, rfl⟩⟩

/-- **A label passes its check when it keeps the rules.** Its bytes are counted, which are its
characters where they are those of labels. -/
theorem checkLabel_eq_ok_iff {label : List Char} : checkLabel label = .ok () ↔ IsLabel label := by
  have hbytes (h : ∀ c ∈ label, isLabelChar c = true) :
      (String.ofList label).utf8ByteSize = label.length :=
    Text.utf8ByteSize_ofList fun c hc => utf8Size_of_isLabelChar (h c hc)
  rw [checkLabel_eq_ok_iff_checks, not_hasEdgeHyphen_iff]
  constructor
  · rintro ⟨hne, hlen, hchars, hhead, hlast⟩
    rw [hbytes hchars, maxLabelBytes] at hlen
    exact ⟨List.length_pos_iff.2 (by simpa using hne), by omega,
      fun c hc => isLabelChar_iff.1 (hchars c hc), hhead, hlast⟩
  · intro h
    have hchars (c : Char) (hc : c ∈ label) : isLabelChar c = true :=
      isLabelChar_iff.2 (h.chars c hc)
    have hshort := h.short
    refine ⟨by simpa using List.length_pos_iff.1 h.nonempty, ?_, hchars, h.head, h.last⟩
    rw [hbytes hchars, maxLabelBytes]
    omega

instance (label : List Char) : Decidable (IsLabel label) :=
  match h : checkLabel label with
  | .ok () => .isTrue (checkLabel_eq_ok_iff.1 h)
  | .error _ => .isFalse fun g => nomatch h.symm.trans (checkLabel_eq_ok_iff.2 g)

theorem checkLabels_eq_ok_iff {ls : List (List Char)} :
    checkLabels ls = .ok () ↔ ∀ label ∈ ls, IsLabel label := by
  induction ls with
  | nil => exact ⟨fun _ => nofun, fun _ => rfl⟩
  | cons label ls ih =>
    rw [checkLabels, Outcome.check_bind_eq_ok, checkLabel_eq_ok_iff, ih, List.forall_mem_cons]

/-! ## Names -/

/-- **The rules of a host name**: 1 to 253 bytes, labels with dots between them, and the last label
is not all digits. -/
structure Grammar (s : String) : Prop where
  nonempty : 1 ≤ s.utf8ByteSize
  short : s.utf8ByteSize ≤ 253
  labels : ∀ label ∈ labels s, IsLabel label
  top : ¬ ∀ c ∈ (Hostname.labels s).getLastD [], c.isDigit = true

/-- **A text is a host name when it keeps the rules, and the name is the text.** -/
theorem ofString_eq_ok_iff {s : String} {h : Hostname} :
    ofString s = .ok h ↔ Grammar s ∧ h = ⟨s⟩ := by
  have hempty : s.isEmpty = true ↔ s.utf8ByteSize = 0 := by simp [String.isEmpty_iff]
  simp only [ofString, Outcome.throw_bind, Outcome.guard_eq_ok, Outcome.check_bind_eq_ok,
    Outcome.pure_eq_ok, checkLabels_eq_ok_iff, hempty, maxBytes, List.all_eq_true]
  constructor
  · rintro ⟨hne, hlen, hlabels, htop, rfl⟩
    exact ⟨⟨by omega, by omega, hlabels, htop⟩, rfl⟩
  · rintro ⟨g, rfl⟩
    have hpos := g.nonempty
    have hshort := g.short
    exact ⟨by omega, by omega, g.labels, g.top, rfl⟩

instance (s : String) : Decidable (Grammar s) :=
  match h : ofString s with
  | .ok _ => .isTrue (ofString_eq_ok_iff.1 h).1
  | .error _ => .isFalse fun g => nomatch h.symm.trans (ofString_eq_ok_iff.2 ⟨g, rfl⟩)

end Deployment.Hostname
