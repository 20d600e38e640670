import Deployment.Text.Natural

/-!
# Proofs/Text/Decimal — which texts are decimal numbers

A number is read from an optional plus sign and digits, and is the number that these denote, however
many there are (`readNat?_eq_some_iff`).  The digits of a number are read as the number
(`readNat?_toDigits`).
-/

namespace Deployment.Text

/-- **A decimal digit has its value**, and nothing else is one. -/
theorem digitValue?_ten (c : Char) :
    digitValue? 10 c = if c.isDigit then some (c.toNat - '0'.toNat) else none := by
  have hdigit : c.isDigit = true ↔ '0' ≤ c ∧ c ≤ '9' := by
    simp [Char.isDigit, Char.le_def]
  by_cases h : '0' ≤ c ∧ c ≤ '9'
  · have hvalue : c.toNat - '0'.toNat < 10 := by
      have hle : c.toNat ≤ 57 := UInt32.le_iff_toNat_le.1 h.2
      have hzero : '0'.toNat = 48 := rfl
      omega
    rw [digitValue?, if_pos h, if_pos (hdigit.2 h)]
    exact Option.filter_some_pos (decide_eq_true hvalue)
  · rw [digitValue?, if_neg h, if_neg (mt hdigit.1 h)]
    split
    · exact Option.filter_some_neg (by simp)
    · split
      · exact Option.filter_some_neg (by simp)
      · rfl

/-- The digits that follow add to what is there. -/
theorem foldDigits?_eq_some_iff {acc n : Nat} {cs : List Char} :
    foldDigits? 10 acc cs = some n ↔
      (∀ c ∈ cs, c.isDigit = true) ∧ Nat.ofDigitChars 10 cs acc = n := by
  induction cs generalizing acc with
  | nil => simp [foldDigits?]
  | cons c cs ih =>
    rw [foldDigits?, digitValue?_ten, List.forall_mem_cons, Nat.ofDigitChars_cons]
    split
    · rename_i h
      rw [Option.bind_some, ih, Nat.mul_comm acc]
      simp [h]
    · rename_i h
      simp [h]

/-- **A text of digits denotes a number.** -/
structure IsDecimal (cs : List Char) (n : Nat) : Prop where
  nonempty : cs ≠ []
  digits : ∀ c ∈ cs, c.isDigit = true
  value : Nat.ofDigitChars 10 cs 0 = n

/-- Digits to base ten are read as the decimal they are. -/
theorem ofDigits?_eq_some_iff {n : Nat} {cs : List Char} :
    ofDigits? 10 cs = some n ↔ IsDecimal cs n := by
  cases cs with
  | nil => exact ⟨nofun, fun h => absurd rfl h.nonempty⟩
  | cons c cs =>
    change foldDigits? 10 0 (c :: cs) = some n ↔ _
    rw [foldDigits?_eq_some_iff]
    exact ⟨fun h => ⟨List.cons_ne_nil c cs, h.1, h.2⟩, fun h => ⟨h.digits, h.value⟩⟩

/-- No digit is a sign. -/
theorem IsDecimal.plus_not_mem {digits : List Char} {n : Nat} (h : IsDecimal digits n) :
    '+' ∉ digits := fun hmem => absurd (h.digits '+' hmem) (by decide)

/-- **A number is an optional plus sign and digits**, and is what the digits denote. -/
theorem readNat?_eq_some_iff {n : Nat} {cs : List Char} :
    readNat? 10 cs = some n ↔
      ∃ digits, (cs = digits ∨ cs = '+' :: digits) ∧ IsDecimal digits n := by
  constructor
  · intro h
    unfold readNat? at h
    split at h
    · exact ⟨_, Or.inr rfl, ofDigits?_eq_some_iff.1 h⟩
    · exact ⟨_, Or.inl rfl, ofDigits?_eq_some_iff.1 h⟩
  · rintro ⟨digits, rfl | rfl, hdecimal⟩
    · unfold readNat?
      split
      · exact absurd List.mem_cons_self hdecimal.plus_not_mem
      · exact ofDigits?_eq_some_iff.2 hdecimal
    · exact ofDigits?_eq_some_iff.2 hdecimal

theorem isDecimal_toDigits (n : Nat) : IsDecimal (Nat.toDigits 10 n) n where
  nonempty := Nat.toDigits_ne_nil
  digits _ hc := Nat.isDigit_of_mem_toDigits (by decide) (by decide) hc
  value := Nat.ofDigitChars_ten_toDigits

/-- **The digits of a number are read as the number.** -/
theorem readNat?_toDigits (n : Nat) : readNat? 10 (Nat.toDigits 10 n) = some n :=
  readNat?_eq_some_iff.2 ⟨_, Or.inl rfl, isDecimal_toDigits n⟩

end Deployment.Text
