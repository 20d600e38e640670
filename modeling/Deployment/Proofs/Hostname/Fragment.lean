import Mathlib
import Deployment.Proofs.Hostname.Grammar

/-!
# Proofs/Hostname/Fragment — fragments and the names they make under a domain

What a text is as a domain or as a fragment depends on the text alone: it is trimmed, written in
lower case and then held to the rules (`canonical_eq_ok_iff`, `Fragment.ofString_eq_ok_iff`). A name
under a domain gives its fragment back (`under_inj`) and is never the domain (`under_ne`).
-/

namespace Deployment

/-! ## Domains -/

namespace Hostname

/-- The text that a domain is written as. -/
def canonicalText (s : String) : String := Text.asciiLower (Text.trim s)

/-- **A text is a domain when its lower-case form keeps the rules of host names.** -/
theorem canonical_eq_ok_iff {s : String} {h : Hostname} :
    canonical s = .ok h ↔ Grammar (canonicalText s) ∧ h = ⟨canonicalText s⟩ :=
  ofString_eq_ok_iff

/-- **A domain has no letter in upper case.** -/
theorem isUpper_of_mem_canonicalText {s : String} {c : Char} (h : c ∈ (canonicalText s).toList) :
    c.isUpper = false := by
  rw [canonicalText, Text.asciiLower, String.toList_ofList, List.mem_map] at h
  obtain ⟨d, -, rfl⟩ := h
  exact Char.isUpper_toLower_eq_false d

/-- A domain has as many bytes as its text has between the blanks. -/
theorem utf8ByteSize_canonicalText (s : String) :
    (canonicalText s).utf8ByteSize = (Text.trim s).utf8ByteSize := by
  have hlower (cs : List Char) : (String.ofList (cs.map Char.toLower)).utf8ByteSize =
      (String.ofList cs).utf8ByteSize := by
    induction cs with
    | nil => rfl
    | cons c cs ih =>
      rw [List.map_cons, String.ofList_cons, String.ofList_cons, String.utf8ByteSize_append,
        String.utf8ByteSize_append, String.utf8ByteSize_singleton, String.utf8ByteSize_singleton,
        Text.utf8Size_toLower, ih]
  rw [canonicalText, Text.asciiLower, hlower, String.ofList_toList]

/-! ## Names under a domain

The name of a service is a fragment in front of a domain. From the name, the fragment is what stands
before its first dot, so two fragments make two names. -/

/-- The name that a fragment makes under a domain. -/
def under (fragment domain : String) : String := fragment ++ "." ++ domain

/-- A domain makes a name of a fragment when the name keeps the rules. -/
theorem withFragment_eq_ok_iff {root h : Hostname} {f : Fragment} :
    root.withFragment f = .ok h ↔ Grammar (under f.text root.text) ∧ h = ⟨under f.text root.text⟩ :=
  ofString_eq_ok_iff

theorem toList_under (fragment domain : String) :
    (under fragment domain).toList = fragment.toList ++ '.' :: domain.toList := by
  simp [under]

/-- **Different fragments make different names.** -/
theorem under_inj {a b domain : String} (h : under a domain = under b domain) : a = b := by
  have hl := congrArg String.toList h
  rw [toList_under, toList_under] at hl
  exact String.toList_injective (List.append_cancel_right hl)

/-- **A name under a domain is longer than the domain.** -/
theorem under_ne (fragment domain : String) : under fragment domain ≠ domain := by
  intro h
  have hl := congrArg (fun s => s.toList.length) h
  simp only [toList_under, List.length_append, List.length_cons] at hl
  omega

/-- A fragment and a dot are added to the bytes of the domain. -/
theorem utf8ByteSize_under (fragment domain : String) :
    (under fragment domain).utf8ByteSize = fragment.utf8ByteSize + 1 + domain.utf8ByteSize := by
  rw [under, String.utf8ByteSize_append, String.utf8ByteSize_append]
  rfl

/-- **A name under a domain has one label more.** -/
theorem labels_under {fragment : String} (h : IsLabel fragment.toList) (domain : String) :
    labels (under fragment domain) = fragment.toList :: labels domain := by
  have hdot : '.' ∉ fragment.toList := fun hmem => absurd (h.chars '.' hmem) (by decide)
  rw [labels, toList_under, Text.splitOn_append hdot]
  rfl

/-- **A label in front of a domain makes a name** where there is room for it. -/
theorem Grammar.under {fragment domain : String} (hf : IsLabel fragment.toList)
    (hd : Grammar domain) (hroom : fragment.utf8ByteSize + 1 + domain.utf8ByteSize ≤ 253) :
    Grammar (under fragment domain) where
  nonempty := by
    rw [utf8ByteSize_under]
    omega
  short := by rwa [utf8ByteSize_under]
  labels := by
    rw [labels_under hf, List.forall_mem_cons]
    exact ⟨hf, hd.labels⟩
  top := by
    obtain ⟨label, rest, hlabels⟩ := List.exists_cons_of_ne_nil
      (show Hostname.labels domain ≠ [] from Text.splitOn_ne_nil _)
    have htop := hd.top
    rw [hlabels, List.getLastD_cons] at htop
    rwa [labels_under hf, hlabels, List.getLastD_cons, List.getLastD_cons]

end Hostname

/-! ## Fragments -/

namespace Fragment

/-- The text that a fragment is written as. -/
def normalText (raw : String) : String := Text.lower (Text.trim raw)

/-- **The rules of a fragment**: those of a label, and no letter in upper case. -/
structure Grammar (s : String) : Prop where
  label : Hostname.IsLabel s.toList
  chars : ∀ c ∈ s.toList, c.isLower = true ∨ c.isDigit = true ∨ c = '-'

theorem isFragmentChar_iff {c : Char} :
    isFragmentChar c = true ↔ c.isLower = true ∨ c.isDigit = true ∨ c = '-' := by
  simp [isFragmentChar, or_assoc]

/-- **A text is a fragment when its lower-case form keeps the rules.** -/
theorem ofString_eq_ok_iff {raw : String} {f : Fragment} :
    ofString raw = .ok f ↔ Grammar (normalText raw) ∧ f = ⟨normalText raw⟩ := by
  rw [ofString, ← normalText]
  simp only [Outcome.throw_bind, Outcome.guard_eq_ok]
  constructor
  · rintro ⟨-, h⟩
    cases hfind : (normalText raw).toList.find? fun c => !isFragmentChar c with
    | some c =>
      rw [hfind] at h
      exact nomatch h
    | none =>
      rw [hfind, Outcome.check_bind_eq_ok, Hostname.checkLabel_eq_ok_iff, Outcome.pure_eq_ok] at h
      refine ⟨⟨h.1, fun c hc => isFragmentChar_iff.1 ?_⟩, h.2.symm⟩
      simpa using List.find?_eq_none.1 hfind c hc
  · rintro ⟨g, rfl⟩
    have hne : ¬ (normalText raw).isEmpty = true := fun he => by
      have hpos := g.label.nonempty
      rw [String.isEmpty_iff.1 he] at hpos
      exact absurd hpos (by decide)
    have hnone : ((normalText raw).toList.find? fun c => !isFragmentChar c) = none := by
      simpa using fun c hc => isFragmentChar_iff.2 (g.chars c hc)
    refine ⟨hne, ?_⟩
    rw [hnone]
    exact Outcome.check_bind_eq_ok.2 ⟨Hostname.checkLabel_eq_ok_iff.2 g.label, rfl⟩

/-- A fragment is a label whose letters are in lower case. -/
theorem grammar_iff {s : String} : Grammar s ↔
    Hostname.IsLabel s.toList ∧ ∀ c ∈ s.toList, isFragmentChar c = true :=
  ⟨fun g => ⟨g.label, fun c hc => isFragmentChar_iff.2 (g.chars c hc)⟩,
    fun h => ⟨h.1, fun c hc => isFragmentChar_iff.1 (h.2 c hc)⟩⟩

instance (s : String) : Decidable (Grammar s) := decidable_of_iff' _ grammar_iff

/-- The fragments that address the root domain. -/
theorem isRoot_iff {f : Fragment} : f.isRoot = true ↔ f.text = "main" ∨ f.text = "app" := by
  simp [isRoot, reserved]

end Fragment

end Deployment
