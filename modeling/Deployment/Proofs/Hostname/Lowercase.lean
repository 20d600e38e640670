import Deployment.Proofs.Hostname.Fragment

/-!
# Proofs/Hostname/Lowercase — domains in full lower case

A domain is written in lower case letter by letter of ASCII.  Full lower case would change other
characters too, but a host name has none: a text that is taken as a domain has the same lower case
in both ways (`Hostname.lower_of_canonical`).  A text that keeps the rules of fragments is in lower
case already and is written as it is (`Fragment.normalText_of_grammar`).
-/

namespace Deployment

namespace Text

/-- **The lower case of a character of ASCII** is that of its letter. -/
theorem lowerChar_ofNat :
    ∀ n < 128, lowerChar (Char.ofNat n) = [(Char.ofNat n).toLower] ∧ Char.ofNat n ≠ 'Σ' := by
  decide +kernel

/-- In ASCII a character has one character in lower case, and none is the letter that depends on its
neighbours. -/
theorem lowerChar_of_ascii {c : Char} (h : c.toNat < 128) :
    lowerChar c = [c.toLower] ∧ c ≠ 'Σ' := by
  have hc := lowerChar_ofNat c.toNat h
  rwa [Char.ofNat_toNat] at hc

/-- Where all characters are of ASCII, none depends on its neighbours. -/
theorem lowerFrom_of_ascii {cs : List Char} (h : ∀ c ∈ cs, c.toNat < 128) (before : List Char) :
    lowerFrom before cs = cs.map Char.toLower := by
  induction cs generalizing before with
  | nil => rfl
  | cons c cs ih =>
    rw [List.forall_mem_cons] at h
    obtain ⟨hlower, hsigma⟩ := lowerChar_of_ascii h.1
    rw [lowerFrom, if_neg hsigma, hlower, ih h.2]
    rfl

/-- **A text of ASCII has the same lower case in both ways.** -/
theorem lower_of_ascii {s : String} (h : ∀ c ∈ s.toList, c.toNat < 128) :
    lower s = asciiLower s := by
  rw [lower, lowerFrom_of_ascii h, asciiLower]

/-- A letter in lower case is of ASCII only if the letter is. -/
theorem ascii_of_toLower {c : Char} (h : c.toLower.toNat < 128) : c.toNat < 128 := by
  unfold Char.toLower at h
  split at h
  · rename_i hupper
    have hle : c.toNat ≤ 90 := UInt32.le_iff_toNat_le.1 hupper.2
    omega
  · exact h

/-- Every character of a text stands in a part of it, or is the one it was cut at. -/
theorem mem_splitOn {sep c : Char} {cs : List Char} (h : c ∈ cs) :
    c = sep ∨ ∃ part ∈ splitOn sep cs, c ∈ part := by
  induction cs with
  | nil => exact absurd h List.not_mem_nil
  | cons d cs ih =>
    rw [splitOn]
    by_cases hd : d = sep
    · rw [if_pos hd]
      rcases List.mem_cons.1 h with rfl | h
      · exact Or.inl hd
      · rcases ih h with heq | ⟨part, hpart, hc⟩
        · exact Or.inl heq
        · exact Or.inr ⟨part, List.mem_cons_of_mem _ hpart, hc⟩
    · rw [if_neg hd]
      obtain ⟨first, parts, hparts⟩ := List.exists_cons_of_ne_nil (@splitOn_ne_nil sep cs)
      rw [hparts] at ih ⊢
      rcases List.mem_cons.1 h with rfl | h
      · exact Or.inr ⟨_, List.mem_cons_self, List.mem_cons_self⟩
      · rcases ih h with heq | ⟨part, hpart, hc⟩
        · exact Or.inl heq
        · rcases List.mem_cons.1 hpart with rfl | hpart
          · exact Or.inr ⟨_, List.mem_cons_self, List.mem_cons_of_mem _ hc⟩
          · exact Or.inr ⟨part, List.mem_cons_of_mem _ hpart, hc⟩

/-- A text without blanks is trimmed to itself. -/
theorem trim_of_not_blank {s : String} (h : ∀ c ∈ s.toList, isBlank c = false) : trim s = s := by
  have hkeep (cs : List Char) (hcs : ∀ c ∈ cs, isBlank c = false) : cs.dropWhile isBlank = cs := by
    cases cs with
    | nil => rfl
    | cons c cs => exact List.dropWhile_cons_of_neg (by simp [hcs c])
  have hback : ∀ c ∈ s.toList.reverse, isBlank c = false := by simpa using h
  rw [trim, trimChars, trimStart, hkeep _ h, trimEnd, hkeep _ hback, List.reverse_reverse,
    String.ofList_toList]

end Text

namespace Hostname

/-- A host name has letters, digits, hyphens and dots. -/
theorem Grammar.chars {s : String} (h : Grammar s) :
    ∀ c ∈ s.toList, c.isAlphanum = true ∨ c = '-' ∨ c = '.' := by
  intro c hc
  rcases @Text.mem_splitOn '.' c s.toList hc with hdot | ⟨label, hlabel, hmem⟩
  · exact Or.inr (Or.inr hdot)
  · exact ((h.labels label hlabel).chars c hmem).imp_right Or.inl

/-- The characters of names are letters, digits, hyphens and dots of ASCII. -/
theorem Grammar.ascii {s : String} (h : Grammar s) : ∀ c ∈ s.toList, c.toNat < 128 := by
  intro c hc
  rcases h.chars c hc with hc | rfl | rfl
  · rcases Text.toNat_of_isAlphanum hc with hc | hc | hc <;> omega
  · decide
  · decide

/-- **The lower case of a text that is a domain is the domain.** -/
theorem lower_of_canonical {s : String} {h : Hostname} (hs : canonical s = .ok h) :
    Text.lower (Text.trim s) = h.text := by
  obtain ⟨hgrammar, rfl⟩ := canonical_eq_ok_iff.1 hs
  refine Text.lower_of_ascii fun c hc => Text.ascii_of_toLower ?_
  refine hgrammar.ascii c.toLower ?_
  rw [canonicalText, Text.asciiLower, String.toList_ofList]
  exact List.mem_map_of_mem hc

end Hostname

namespace Fragment

/-- The characters of fragments are no blanks and have no other lower case. -/
theorem isFragmentChar_ofNat : ∀ n < 128, isFragmentChar (Char.ofNat n) = true →
    Text.isBlank (Char.ofNat n) = false ∧ (Char.ofNat n).toLower = Char.ofNat n := by
  decide +kernel

/-- The characters of fragments are of ASCII. -/
theorem Grammar.ascii {s : String} (h : Grammar s) : ∀ c ∈ s.toList, c.toNat < 128 := by
  intro c hc
  rcases h.label.chars c hc with hc | rfl
  · rcases Text.toNat_of_isAlphanum hc with hc | hc | hc <;> omega
  · decide

/-- A fragment has nothing to trim and nothing to write in lower case. -/
theorem Grammar.not_blank_and_lower {s : String} (h : Grammar s) :
    ∀ c ∈ s.toList, Text.isBlank c = false ∧ c.toLower = c := by
  intro c hc
  have hcode := isFragmentChar_ofNat c.toNat (h.ascii c hc)
  rw [Char.ofNat_toNat] at hcode
  exact hcode (isFragmentChar_iff.2 (h.chars c hc))

/-- **A text that keeps the rules of fragments is written as it is.** -/
theorem normalText_of_grammar {s : String} (h : Grammar s) : normalText s = s := by
  have htrim : Text.trim s = s :=
    Text.trim_of_not_blank fun c hc => (h.not_blank_and_lower c hc).1
  have hlower : s.toList.map Char.toLower = s.toList :=
    (List.map_congr_left fun c hc => (h.not_blank_and_lower c hc).2).trans (List.map_id _)
  rw [normalText, htrim, Text.lower_of_ascii h.ascii, Text.asciiLower, hlower,
    String.ofList_toList]

end Fragment

end Deployment
