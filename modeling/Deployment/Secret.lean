import Deployment.Environment
import Deployment.Text.Ascii

/-!
# Secret — generated credentials

A generated credential has 24 letters and digits of ASCII (`isGenerated_ofNumber`). Numbers below
`count`, of which there are as many as credentials, have different ones (`ofNumber_inj`): a number
drawn evenly gives a credential drawn evenly.
-/

namespace Deployment.Secret

/-- The number of characters of a credential. -/
def length : Nat := 24

/-- The characters of credentials. -/
def alphabet : List Char :=
  "ABCDEFGHIJKLMNOPQRSTUVWXYZabcdefghijklmnopqrstuvwxyz0123456789".toList

/-- The number of credentials. -/
def count : Nat := Nat.pow alphabet.length length

/-- The characters of a number in base 62, the last one first. -/
def letters : Nat → Nat → List Char
  | 0, _ => []
  | k + 1, n => alphabet.getD (n % alphabet.length) 'A' :: letters k (n / alphabet.length)

/-- The credential of a number. -/
def ofNumber (n : Nat) : String := String.ofList (letters length n)

/-- Whether a text is a credential as they are generated. -/
def isGenerated (text : String) : Bool :=
  text.utf8ByteSize == length && text.toList.all Char.isAlphanum

/-- What is shown in place of a credential. -/
def shown : String := concealed

/-- What is shown in place of a credential in a description. -/
def described : String := "Secret(" ++ concealed ++ ")"

theorem isAlphanum_of_mem_alphabet : ∀ c ∈ alphabet, c.isAlphanum = true :=
  List.all_eq_true.1 (by decide)

theorem nodup_alphabet : alphabet.Nodup := by decide

theorem length_letters : ∀ k n : Nat, (letters k n).length = k
  | 0, _ => rfl
  | k + 1, n => congrArg (· + 1) (length_letters k (n / alphabet.length))

/-- The character of a digit is the one with its number. -/
theorem getD_alphabet {i : Nat} (h : i < alphabet.length) : alphabet.getD i 'A' = alphabet[i] :=
  (List.getElem_eq_getD _).symm

theorem mod_lt_alphabet (n : Nat) : n % alphabet.length < alphabet.length :=
  Nat.mod_lt n (by decide)

theorem isAlphanum_of_mem_letters : ∀ {k n : Nat} {c : Char},
    c ∈ letters k n → c.isAlphanum = true
  | k + 1, n, c, h => by
    rw [letters, List.mem_cons] at h
    rcases h with rfl | h
    · rw [getD_alphabet (mod_lt_alphabet n)]
      exact isAlphanum_of_mem_alphabet _ (List.getElem_mem _)
    · exact isAlphanum_of_mem_letters h

/-- **A generated credential is one by its look.** -/
theorem isGenerated_ofNumber (n : Nat) : isGenerated (ofNumber n) = true := by
  have hs : ∀ c ∈ letters length n, c.utf8Size = 1 := fun c hc =>
    Text.utf8Size_of_isAlphanum (isAlphanum_of_mem_letters hc)
  rw [isGenerated, ofNumber, Text.utf8ByteSize_ofList hs, length_letters, String.toList_ofList]
  simpa using fun c hc => isAlphanum_of_mem_letters hc

theorem letters_inj : ∀ {k m n : Nat}, m < Nat.pow alphabet.length k →
    n < Nat.pow alphabet.length k → letters k m = letters k n → m = n
  | 0, m, n, hm, hn, _ => by
    rw [Nat.pow_eq, Nat.pow_zero] at hm hn
    omega
  | k + 1, m, n, hm, hn, h => by
    rw [letters, letters, List.cons.injEq, getD_alphabet (mod_lt_alphabet m),
      getD_alphabet (mod_lt_alphabet n)] at h
    have hmod : m % alphabet.length = n % alphabet.length :=
      (List.getElem_inj nodup_alphabet).1 h.1
    have hdiv : m / alphabet.length = n / alphabet.length :=
      letters_inj (Nat.div_lt_of_lt_mul (Nat.pow_succ'.symm ▸ hm))
        (Nat.div_lt_of_lt_mul (Nat.pow_succ'.symm ▸ hn)) h.2
    rw [← Nat.div_add_mod m alphabet.length, ← Nat.div_add_mod n alphabet.length, hmod, hdiv]

/-- **Different numbers have different credentials.** -/
theorem ofNumber_inj {m n : Nat} (hm : m < count) (hn : n < count)
    (h : ofNumber m = ofNumber n) : m = n :=
  letters_inj hm hn (String.ofList_injective h)

end Deployment.Secret
