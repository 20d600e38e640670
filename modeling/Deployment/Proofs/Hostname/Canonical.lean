import Deployment.Proofs.Hostname.Lowercase

/-!
# Proofs/Hostname/Canonical — host names as they are spelled, and their canonical form

A text is a host name when labels spell it, with a dot between each two (`Spells`): no text is
spelled in two ways, since labels hold no dots (`Text.splitOn_intercalate`).  A domain is made of
the lower-case form of a text, which is a host name like any other and is its own canonical form
(`IsCanonical`).  `Hostname.accepts_spelled` says which texts are taken and as which names.
-/

namespace Deployment

namespace Text

/-- A text without the separator has one part. -/
theorem splitOn_of_not_mem {sep : Char} {cs : List Char} (h : sep ∉ cs) :
    splitOn sep cs = [cs] := by
  induction cs with
  | nil => rfl
  | cons c cs ih =>
    rw [List.mem_cons, not_or] at h
    rw [splitOn, if_neg (Ne.symm h.1), ih h.2]

/-- **Parts that hold no separator are found again** in the text that they make. -/
theorem splitOn_intercalate {sep : Char} {parts : List (List Char)} (hne : parts ≠ [])
    (h : ∀ part ∈ parts, sep ∉ part) : splitOn sep ([sep].intercalate parts) = parts := by
  induction parts with
  | nil => exact absurd rfl hne
  | cons part parts ih =>
    rw [List.forall_mem_cons] at h
    cases parts with
    | nil => simpa [List.intercalate] using splitOn_of_not_mem h.1
    | cons next parts =>
      have hrest := ih (List.cons_ne_nil next parts) h.2
      rw [List.intercalate_cons_cons, List.append_assoc, List.singleton_append,
        splitOn_append h.1, hrest]

end Text

namespace Hostname

/-! ## Spelling

A name is spelled by its labels. They hold no dot, so the dots of the text are those between them,
and the labels are found again. -/

/-- **How labels spell a host name**: with dots between them, in 1 to 253 bytes, and the last label
is not all digits. -/
structure Spells (parts : List (List Char)) (s : String) : Prop where
  text : s.toList = ['.'].intercalate parts
  labels : ∀ label ∈ parts, IsLabel label
  top : ∃ c ∈ parts.getLastD [], c.isDigit = false
  bytes : 1 ≤ s.utf8ByteSize ∧ s.utf8ByteSize ≤ 253

/-- No label holds a dot. -/
theorem IsLabel.dot_not_mem {label : List Char} (h : IsLabel label) : '.' ∉ label :=
  fun hmem => absurd (h.chars '.' hmem) (by decide)

/-- **The labels that spell a text are those between its dots.** -/
theorem Spells.labels_eq {parts : List (List Char)} {s : String} (h : Spells parts s) :
    Hostname.labels s = parts := by
  have hne : parts ≠ [] := by
    rintro rfl
    obtain ⟨c, hc, -⟩ := h.top
    exact absurd hc List.not_mem_nil
  rw [Hostname.labels, h.text]
  exact Text.splitOn_intercalate hne fun label hlabel => (h.labels label hlabel).dot_not_mem

/-- **A text keeps the rules of host names when labels spell it.** -/
theorem grammar_iff_spells {s : String} : Grammar s ↔ ∃ parts, Spells parts s := by
  constructor
  · intro h
    refine ⟨labels s, (Text.intercalate_splitOn s.toList).symm, h.labels, ?_, h.nonempty, h.short⟩
    simpa using h.top
  · rintro ⟨parts, h⟩
    refine ⟨h.bytes.1, h.bytes.2, ?_, ?_⟩
    · rw [h.labels_eq]
      exact h.labels
    · rw [h.labels_eq]
      simpa using h.top

/-! ## Canonical form -/

/-- **A host name in its canonical form**: written without upper case and blanks, and read as it
is. -/
structure IsCanonical (h : Hostname) : Prop where
  chars : ∀ c ∈ h.text.toList, c.isLower = true ∨ c.isDigit = true ∨ c = '-' ∨ c = '.'
  trimmed : Text.trim h.text = h.text
  lower : Text.lower h.text = h.text
  fixed : canonical h.text = .ok h

theorem chars_of_grammar {s : String} (h : Grammar (canonicalText s)) :
    ∀ c ∈ (canonicalText s).toList,
      c.isLower = true ∨ c.isDigit = true ∨ c = '-' ∨ c = '.' := by
  intro c hc
  have hupper := isUpper_of_mem_canonicalText hc
  rcases h.chars c hc with halnum | hyphen | hdot
  · have hcase : (c.isUpper = true ∨ c.isLower = true) ∨ c.isDigit = true := by
      simpa [Char.isAlphanum, Char.isAlpha] using halnum
    rcases hcase with (h | h) | h
    · exact absurd h (by simp [hupper])
    · exact Or.inl h
    · exact Or.inr (Or.inl h)
  · exact Or.inr (Or.inr (Or.inl hyphen))
  · exact Or.inr (Or.inr (Or.inr hdot))

/-- A canonical text that keeps the rules is trimmed, in lower case and a fixed point. -/
theorem isCanonical_canonicalText {s : String} (h : Grammar (canonicalText s)) :
    IsCanonical ⟨canonicalText s⟩ := by
  have hchar (c : Char) (hc : c ∈ (canonicalText s).toList) :
      Text.isBlank c = false ∧ c.toLower = c := by
    have hcode := Fragment.isFragmentChar_ofNat c.toNat (h.ascii c hc)
    rw [Char.ofNat_toNat] at hcode
    rcases chars_of_grammar h c hc with hlower | hdigit | hyphen | rfl
    · exact hcode (Fragment.isFragmentChar_iff.2 (Or.inl hlower))
    · exact hcode (Fragment.isFragmentChar_iff.2 (Or.inr (Or.inl hdigit)))
    · exact hcode (Fragment.isFragmentChar_iff.2 (Or.inr (Or.inr hyphen)))
    · decide
  have htrim : Text.trim (canonicalText s) = canonicalText s :=
    Text.trim_of_not_blank fun c hc => (hchar c hc).1
  have hlower : Text.asciiLower (canonicalText s) = canonicalText s := by
    have hmap : (canonicalText s).toList.map Char.toLower = (canonicalText s).toList :=
      (List.map_congr_left fun c hc => (hchar c hc).2).trans (List.map_id _)
    rw [Text.asciiLower, hmap, String.ofList_toList]
  refine ⟨chars_of_grammar h, htrim, (Text.lower_of_ascii h.ascii).trans hlower, ?_⟩
  have hself : canonicalText (canonicalText s) = canonicalText s := by
    rw [canonicalText, htrim, hlower]
  exact canonical_eq_ok_iff.2 ⟨by rwa [hself], by rw [hself]⟩

/-- **Which texts are taken as host names, and as which.**  A text is a host name, and the name is
the text, exactly when labels spell it.  A domain depends on nothing but the lower-case form of its
text between the blanks, and is in its canonical form. -/
theorem accepts_spelled (s : String) :
    (∀ h, ofString s = .ok h ↔ (∃ parts, Spells parts s) ∧ h.text = s) ∧
      (∀ t, canonicalText s = canonicalText t → canonical s = canonical t) ∧
      ∀ h, canonical s = .ok h → h.IsCanonical := by
  refine ⟨fun h => ?_, fun t hst => ?_, fun h hs => ?_⟩
  · rw [ofString_eq_ok_iff, grammar_iff_spells]
    exact and_congr_right fun _ => ⟨congrArg text, fun h => by cases h; rfl⟩
  · exact congrArg ofString hst
  · obtain ⟨hgrammar, rfl⟩ := canonical_eq_ok_iff.1 hs
    exact isCanonical_canonicalText hgrammar

theorem accepts_mixedCase :
    canonicalText " Shop.EXAMPLE.com\t" = canonicalText "shop.Example.COM" ∧
      canonical " Shop.EXAMPLE.com\t" = canonical "shop.Example.COM" ∧
      canonical " Shop.EXAMPLE.com\t" = .ok ⟨"shop.example.com"⟩ ∧
      IsCanonical ⟨"shop.example.com"⟩ := by
  have htext : canonicalText " Shop.EXAMPLE.com\t" = canonicalText "shop.Example.COM" := by
    decide +kernel
  have hok : canonical " Shop.EXAMPLE.com\t" = .ok ⟨"shop.example.com"⟩ := by decide +kernel
  obtain ⟨-, hcongr, hcanonical⟩ := accepts_spelled " Shop.EXAMPLE.com\t"
  exact ⟨htext, hcongr _ htext, hok, hcanonical _ hok⟩

end Hostname

end Deployment
