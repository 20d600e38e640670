import Deployment.Proofs.Hostname.Lowercase
import Deployment.Wizard

/-!
# Proofs/Wizard/DatabaseName — names of databases

The name of a database is made of the name of an application, whatever this is: letter by letter of
the text between the blanks (`databaseName_eq`), where every character but a letter or digit of
ASCII becomes an underscore.  The result can stand in a connection string as it is
(`IsDatabaseName`), and making a name of it again changes nothing (`databaseName_settles`).
-/

namespace Deployment.Wizard

/-! ## Characters

A character of a name is a letter in lower case, a digit or an underscore, and of these only the
letters and digits are left as they are. -/

/-- The character of a database name that stands for a character. -/
def nameChar (c : Char) : Char := if c.isAlphanum then c.toLower else '_'

theorem isDigit_toLower (c : Char) : c.toLower.isDigit = c.isDigit := by
  by_cases h : c.isUpper = true
  · have hlower : c.toLower.isLower = true := by
      rw [Char.isLower_toLower_eq_isAlpha, Char.isAlpha, h, Bool.true_or]
    grind [Char.isUpper, Char.isLower, Char.isDigit]
  · rw [Char.toLower_eq_of_not_isUpper h]

theorem isAlphanum_toLower (c : Char) : c.toLower.isAlphanum = c.isAlphanum := by
  rw [Char.isAlphanum, Char.isAlphanum, Char.isAlpha_toLower_eq_isAlpha, isDigit_toLower]

/-- A character that stands for a letter or digit is a small letter or a digit. -/
theorem nameChar_cases (c : Char) :
    (nameChar c).isLower = true ∨ (nameChar c).isDigit = true ∨ nameChar c = '_' := by
  rw [nameChar]
  split
  · rename_i h
    rw [Char.isLower_toLower_eq_isAlpha, isDigit_toLower]
    rw [Char.isAlphanum, Bool.or_eq_true] at h
    exact h.imp_right Or.inl
  · exact Or.inr (Or.inr rfl)

/-- A character is replaced where it is no letter and no digit. -/
theorem isAlphanum_nameChar (c : Char) : (nameChar c).isAlphanum = c.isAlphanum := by
  rw [nameChar]
  split
  · exact isAlphanum_toLower c
  · rename_i h
    rw [Bool.not_eq_true] at h
    rw [h]
    rfl

/-- What stands for no letter or digit is an underscore. -/
theorem nameChar_eq_underscore_iff (c : Char) : nameChar c = '_' ↔ c.isAlphanum = false := by
  constructor
  · intro h
    rw [← isAlphanum_nameChar, h]
    rfl
  · intro h
    rw [nameChar, h]
    rfl

/-! ## Names -/

/-- The text that a database is named after. -/
def givenName (appName : Option String) : String := Text.trim (appName.getD "")

/-- **How a database is named**: character by character, where there is a letter or digit at
all. -/
theorem databaseName_eq (appName : Option String) :
    databaseName appName =
      if ∃ c ∈ (givenName appName).toList, c.isAlphanum = true then
        String.ofList ((givenName appName).toList.map nameChar)
      else "app" := by
  have hmap : ((Text.asciiLower (givenName appName)).toList.map
      fun c => if c.isAlphanum then c else '_') = (givenName appName).toList.map nameChar := by
    rw [Text.asciiLower, String.toList_ofList, List.map_map]
    refine List.map_congr_left fun c _ => ?_
    rw [Function.comp_apply, isAlphanum_toLower, nameChar]
  have hall : ((givenName appName).toList.map nameChar).all (· == '_') = true ↔
      ¬ ∃ c ∈ (givenName appName).toList, c.isAlphanum = true := by
    simp [nameChar_eq_underscore_iff]
  rw [databaseName, ← givenName]
  simp only [hmap, hall, ite_not]

/-- **What a database can be named**: small letters, digits and underscores, and not underscores
alone. -/
structure IsDatabaseName (s : String) : Prop where
  nonempty : s ≠ ""
  chars : ∀ c ∈ s.toList, c.isLower = true ∨ c.isDigit = true ∨ c = '_'
  solid : ∃ c ∈ s.toList, c.isAlphanum = true

/-- A name with a letter or digit is not empty. -/
theorem isDatabaseName_of {s : String}
    (hchars : ∀ c ∈ s.toList, c.isLower = true ∨ c.isDigit = true ∨ c = '_')
    (hsolid : ∃ c ∈ s.toList, c.isAlphanum = true) : IsDatabaseName s where
  nonempty := by
    rintro rfl
    obtain ⟨c, hc, -⟩ := hsolid
    exact absurd hc List.not_mem_nil
  chars := hchars
  solid := hsolid

/-- **Whatever an application is named, a database can be named after it.** -/
theorem isDatabaseName_databaseName (appName : Option String) :
    IsDatabaseName (databaseName appName) := by
  rw [databaseName_eq]
  split
  · rename_i h
    obtain ⟨c, hc, halnum⟩ := h
    refine isDatabaseName_of ?_ ⟨nameChar c, ?_, by rwa [isAlphanum_nameChar]⟩
    · rw [String.toList_ofList, List.forall_mem_map]
      exact fun d _ => nameChar_cases d
    · rw [String.toList_ofList]
      exact List.mem_map_of_mem hc
  · have htext : "app".toList = ['a', 'p', 'p'] := by decide
    exact isDatabaseName_of (by simp [htext]) (by simp [htext])

/-- The characters of database names are no blanks and stand for themselves. -/
theorem not_blank_and_nameChar {c : Char}
    (h : c.isLower = true ∨ c.isDigit = true ∨ c = '_') :
    Text.isBlank c = false ∧ nameChar c = c := by
  have hself (hc : c.isAlphanum = true) (hfragment : Fragment.isFragmentChar c = true) :
      Text.isBlank c = false ∧ nameChar c = c := by
    have hascii : c.toNat < 128 := by
      rcases Text.toNat_of_isAlphanum hc with hc | hc | hc <;> omega
    have hcode := Fragment.isFragmentChar_ofNat c.toNat hascii
    rw [Char.ofNat_toNat] at hcode
    rw [nameChar, if_pos hc]
    exact hcode hfragment
  rcases h with h | h | rfl
  · exact hself (by simp [Char.isAlphanum, Char.isAlpha, h]) (by simp [Fragment.isFragmentChar, h])
  · exact hself (by simp [Char.isAlphanum, h]) (by simp [Fragment.isFragmentChar, h])
  · decide

/-- **What can be the name of a database is named after itself.** -/
theorem databaseName_of_isDatabaseName {s : String} (h : IsDatabaseName s) :
    databaseName (some s) = s := by
  have htrim : givenName (some s) = s :=
    Text.trim_of_not_blank fun c hc => (not_blank_and_nameChar (h.chars c hc)).1
  have hmap : s.toList.map nameChar = s.toList :=
    (List.map_congr_left fun c hc => (not_blank_and_nameChar (h.chars c hc)).2).trans
      (List.map_id _)
  rw [databaseName_eq, htrim, if_pos h.solid, hmap, String.ofList_toList]

/-- **How databases are named after applications.**  Any application gives a name that a database
can have, and this name gives itself.  It is as long as the text between the blanks if a letter or
digit stands there, and otherwise is `app`. -/
theorem databaseName_settles (appName : Option String) :
    IsDatabaseName (databaseName appName) ∧
      databaseName (some (databaseName appName)) = databaseName appName ∧
      ((∃ c ∈ (Text.trim (appName.getD "")).toList, c.isAlphanum = true) →
        (databaseName appName).length = (Text.trim (appName.getD "")).length) ∧
      ((∀ c ∈ (Text.trim (appName.getD "")).toList, c.isAlphanum = false) →
        databaseName appName = "app") := by
  have hname := isDatabaseName_databaseName appName
  refine ⟨hname, databaseName_of_isDatabaseName hname, fun h => ?_, fun h => ?_⟩
  · rw [databaseName_eq, givenName, if_pos h, String.length_ofList, List.length_map,
      String.length_toList]
  · have hnone : ¬ ∃ c ∈ (givenName appName).toList, c.isAlphanum = true := by
      rintro ⟨c, hc, halnum⟩
      exact absurd (h c hc) (by simp [halnum])
    rw [databaseName_eq, if_neg hnone]

/-- Blanks around a name are cut, what is no letter or digit of ASCII is replaced, and a name of
nothing else is not used. -/
theorem databaseName_settles_umlaut :
    databaseName (some "\u00a0M\u00fcller's Shop_2\n") = "m_ller_s_shop_2" ∧
      databaseName (some "m_ller_s_shop_2") = "m_ller_s_shop_2" ∧
      IsDatabaseName "m_ller_s_shop_2" ∧
      databaseName (some " \u00fc_ \t") = "app" := by
  have hname : databaseName (some "\u00a0M\u00fcller's Shop_2\n") = "m_ller_s_shop_2" := by
    decide +kernel
  have hblank : (Text.trim " \u00fc_ \t").toList.all (fun c => !c.isAlphanum) = true := by
    decide +kernel
  obtain ⟨hfits, hself, -⟩ := databaseName_settles (some "\u00a0M\u00fcller's Shop_2\n")
  obtain ⟨-, -, -, hplain⟩ := databaseName_settles (some " \u00fc_ \t")
  rw [hname] at hfits hself
  exact ⟨hname, hself, hfits, hplain (by simpa using hblank)⟩

end Deployment.Wizard
