import Deployment.Proofs.Hostname.Canonical

/-!
# Proofs/Hostname/Prefixing — a fragment in front of a domain

The name that a fragment makes under a domain is held to all rules of host names again.  It has the
labels of the domain and the fragment before them, and the last label stays the same: only the
number of bytes can break a rule that the two parts keep (`withFragment_eq`).  What the name is and
which name it cannot be is `withFragment_prefixes`, on which every route of a service rests.
-/

namespace Deployment

/-! ## Fragments -/

/-- **A fragment in its normal form**: a label in lower case, which is read as it is. -/
structure Fragment.IsNormal (f : Fragment) : Prop where
  fixed : ofString f.text = .ok f
  length : 1 ≤ f.text.length ∧ f.text.length ≤ 63
  chars : ∀ c ∈ f.text.toList, c.isLower = true ∨ c.isDigit = true ∨ c = '-'
  head : f.text.toList.head? ≠ some '-'
  last : f.text.toList.getLast? ≠ some '-'

/-- **A text that keeps the rules of fragments is a fragment in its normal form.** -/
theorem Fragment.Grammar.isNormal {s : String} (h : Grammar s) : IsNormal ⟨s⟩ where
  fixed := ofString_eq_ok_iff.2 ⟨by rwa [normalText_of_grammar h], by rw [normalText_of_grammar h]⟩
  length := by
    rw [← String.length_toList]
    exact ⟨h.label.nonempty, h.label.short⟩
  chars := h.chars
  head := h.label.head
  last := h.label.last

namespace Hostname

/-! ## Names under a domain -/

/-- However a domain is read, it keeps the rules. -/
theorem grammar_of_read {s : String} {root : Hostname}
    (h : ofString s = .ok root ∨ canonical s = .ok root) : Grammar root.text := by
  rcases h with h | h
  · obtain ⟨hgrammar, rfl⟩ := ofString_eq_ok_iff.1 h
    exact hgrammar
  · obtain ⟨hgrammar, rfl⟩ := canonical_eq_ok_iff.1 h
    exact hgrammar

/-- The bytes of a text are counted before anything in it is looked at. -/
theorem ofString_of_long {s : String} (h : 253 < s.utf8ByteSize) :
    ofString s = .error (.tooLong s.utf8ByteSize) := by
  have hne : ¬ s.isEmpty = true := fun he => by
    rw [String.isEmpty_iff.1 he] at h
    exact absurd h (by decide)
  rw [ofString, if_neg hne, if_pos (show maxBytes < s.utf8ByteSize from h)]
  rfl

/-- **A fragment makes a name under a domain where there is room for it**, and is refused for the
number of bytes where there is none. -/
theorem withFragment_eq {root : Hostname} {f : Fragment} (hroot : Grammar root.text)
    (hf : Fragment.Grammar f.text) :
    root.withFragment f =
      if f.text.utf8ByteSize + 1 + root.text.utf8ByteSize ≤ 253 then
        .ok ⟨under f.text root.text⟩
      else .error (.tooLong (f.text.utf8ByteSize + 1 + root.text.utf8ByteSize)) := by
  split
  · rename_i hroom
    exact withFragment_eq_ok_iff.2 ⟨hroot.under hf.label hroom, rfl⟩
  · rename_i hlong
    rw [← utf8ByteSize_under] at hlong ⊢
    exact ofString_of_long (Nat.lt_of_not_le hlong)

/-- **What a fragment makes under a domain.**  A fragment is in its normal form.  Its name under a
domain is the fragment, a dot and the domain; nothing but their length can refuse it.  The name is
never the domain, and under one domain it is that of no other fragment. -/
theorem withFragment_prefixes {s raw : String} {root : Hostname} {f : Fragment}
    (hroot : ofString s = .ok root ∨ canonical s = .ok root) (hf : Fragment.ofString raw = .ok f) :
    f.IsNormal ∧
      (root.withFragment f =
        if f.text.utf8ByteSize + 1 + root.text.utf8ByteSize ≤ 253 then
          .ok ⟨f.text ++ "." ++ root.text⟩
        else .error (.tooLong (f.text.utf8ByteSize + 1 + root.text.utf8ByteSize))) ∧
      root.withFragment f ≠ .ok root ∧
      ∀ g h, root.withFragment f = .ok h → root.withFragment g = .ok h → g = f := by
  obtain ⟨hgrammar, rfl⟩ := Fragment.ofString_eq_ok_iff.1 hf
  refine ⟨hgrammar.isNormal, withFragment_eq (grammar_of_read hroot) hgrammar, fun h => ?_,
    fun g h hfirst hsecond => ?_⟩
  · exact under_ne _ _ (congrArg text (withFragment_eq_ok_iff.1 h).2).symm
  · obtain ⟨-, rfl⟩ := withFragment_eq_ok_iff.1 hfirst
    have hname := congrArg text (withFragment_eq_ok_iff.1 hsecond).2
    exact congrArg Fragment.mk (under_inj hname).symm

/-- Labels of a domain that leaves room for a fragment of two bytes. -/
def wideLabels : List (List Char) := [62, 62, 62, 61].map fun n => List.replicate n 'x'

/-- The domain of them. -/
def wideDomain : String := String.ofList (['.'].intercalate wideLabels)

theorem withFragment_prefixes_wideDomain :
    ofString wideDomain = .ok ⟨wideDomain⟩ ∧ Fragment.ofString " DB" = .ok ⟨"db"⟩ ∧
      Fragment.ofString "API" = .ok ⟨"api"⟩ ∧ Fragment.IsNormal ⟨"db"⟩ ∧
      withFragment ⟨wideDomain⟩ ⟨"db"⟩ = .ok ⟨"db" ++ "." ++ wideDomain⟩ ∧
      withFragment ⟨wideDomain⟩ ⟨"api"⟩ = .error (.tooLong 254) := by
  have hbytes : wideDomain.utf8ByteSize = 250 := by decide +kernel
  have hspells : Spells wideLabels wideDomain :=
    { text := String.toList_ofList
      labels := by decide +kernel
      top := ⟨'x', List.mem_replicate.2 ⟨(by decide : 61 ≠ 0), rfl⟩, rfl⟩
      bytes := by simp only [hbytes]; decide }
  have hroot : ofString wideDomain = .ok ⟨wideDomain⟩ :=
    ofString_eq_ok_iff.2 ⟨grammar_iff_spells.2 ⟨_, hspells⟩, rfl⟩
  have hdb : Fragment.ofString " DB" = .ok ⟨"db"⟩ := by decide +kernel
  have hapi : Fragment.ofString "API" = .ok ⟨"api"⟩ := by decide +kernel
  obtain ⟨hnormal, hfits, -⟩ := withFragment_prefixes (.inl hroot) hdb
  obtain ⟨-, hwide, -⟩ := withFragment_prefixes (.inl hroot) hapi
  have hdbBytes : "db".utf8ByteSize = 2 := rfl
  have hapiBytes : "api".utf8ByteSize = 3 := rfl
  simp only [hbytes, hdbBytes] at hfits
  simp only [hbytes, hapiBytes] at hwide
  exact ⟨hroot, hdb, hapi, hnormal, hfits, hwide⟩

end Hostname

end Deployment
