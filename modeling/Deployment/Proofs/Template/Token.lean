import Mathlib.Data.List.Basic
import Mathlib.Data.List.TakeWhile
import Deployment.Template.Token

/-!
# Proofs/Template/Token — what tokens are made of

A token of a text is blanks, word characters and blanks between its braces
(`Token.isWritten_of_mem_tokens`).  No blank is a word character, so a text begins with one token
at most (`Token.IsWritten.first?_append`), and the text of a token tells which one it is
(`Token.eq_of_text_eq`).  The token that a search reports is the first one that is not
bound (`unboundToken?_eq_some_iff`).  What a text is filled to depends on its tokens only
(`fill_congr`), and it is empty where there are only tokens and these stand for empty texts
(`fill_eq_empty_iff`).
-/

namespace Deployment

/-! ## Names between braces

The pattern of a token is read from the left without looking back. That is right because the sets of
characters it is made of lie apart. -/

/-- Sets of characters whose ranges lie apart have no character in common. -/
theorem CharSet.contains_eq_false_of_apart {s t : CharSet}
    (h : ∀ a ∈ s.ranges, ∀ b ∈ t.ranges, a.2 < b.1 ∨ b.2 < a.1) {c : Char}
    (hc : s.contains c = true) : t.contains c = false := by
  rw [← Bool.not_eq_true, contains_iff]
  rintro ⟨b, hb, hlo, hhi⟩
  obtain ⟨a, ha, halo, hahi⟩ := contains_iff.1 hc
  have := h a ha b hb
  omega

namespace Text

/-- **Blanks are no word characters.** -/
theorem isWord_of_isBlank {c : Char} (h : isBlank c = true) : isWord c = false :=
  CharSet.contains_eq_false_of_apart (by decide +kernel) h

theorem isBlank_of_isWord {c : Char} (h : isWord c = true) : isBlank c = false := by
  rw [← Bool.not_eq_true]
  exact fun hblank => Bool.false_ne_true ((isWord_of_isBlank hblank).symm.trans h)

/-- A brace ends the name of a token. -/
theorem isWord_closing : isWord '\x7d' = false := by decide +kernel

theorem isBlank_closing : isBlank '\x7d' = false := by decide +kernel

end Text

namespace Template

namespace Token

/-- **A token as texts have it**: a name of word characters with blanks around it. -/
structure IsWritten (t : Token) : Prop where
  before : ∀ c ∈ t.before, Text.isBlank c = true
  letters : ∀ c ∈ t.letters, Text.isWord c = true
  named : t.letters ≠ []
  behind : ∀ c ∈ t.behind, Text.isBlank c = true

/-- The characters of a kind that a text begins with. -/
theorem takeWhile_append_cons {p : Char → Bool} {l cs : List Char} {c : Char}
    (hl : ∀ a ∈ l, p a = true) (hc : p c = false) : (l ++ c :: cs).takeWhile p = l := by
  rw [List.takeWhile_append_of_pos hl, List.takeWhile_cons_of_neg (by simp [hc]), List.append_nil]

/-- What is dropped ends at the first character that does not belong to it. -/
theorem dropWhile_append_cons {p : Char → Bool} {l cs : List Char} {c : Char}
    (hl : ∀ a ∈ l, p a = true) (hc : p c = false) : (l ++ c :: cs).dropWhile p = c :: cs := by
  rw [List.dropWhile_append_of_pos hl, List.dropWhile_cons_of_neg (by simp [hc])]

theorem isWritten_of_first? {cs : List Char} {t : Token} (h : first? cs = some t) :
    t.IsWritten := by
  unfold first? at h
  split at h
  · dsimp only at h
    split at h
    · rename_i hname
      obtain rfl := Option.some.inj h
      rw [Bool.and_eq_true, Bool.not_eq_true', List.isEmpty_eq_false_iff] at hname
      exact ⟨fun c hc => List.mem_takeWhile_imp hc, fun c hc => List.mem_takeWhile_imp hc,
        hname.1, fun c hc => List.mem_takeWhile_imp hc⟩
    · exact nomatch h
  · exact nomatch h

theorem isWritten_of_mem_piecesAfter {t : Token} {skip : Nat} {cs : List Char}
    (h : Piece.token t ∈ piecesAfter skip cs) : t.IsWritten := by
  induction cs generalizing skip with
  | nil => cases skip <;> exact absurd h List.not_mem_nil
  | cons c cs ih =>
    cases skip with
    | succ skip => exact ih h
    | zero =>
      rw [piecesAfter] at h
      split at h
      · rename_i u hu
        rcases List.mem_cons.1 h with heq | h
        · obtain rfl := Piece.token.inj heq
          exact isWritten_of_first? hu
        · exact ih h
      · rcases List.mem_cons.1 h with heq | h
        · cases heq
        · exact ih h

/-- **The tokens of a text are written so.** -/
theorem isWritten_of_mem_tokens {s : String} {t : Token} (h : t ∈ tokens s) : t.IsWritten := by
  obtain ⟨p, hp, htoken⟩ := List.mem_filterMap.1 h
  cases p with
  | char c => exact nomatch htoken
  | token u =>
    obtain rfl := Option.some.inj htoken
    exact isWritten_of_mem_piecesAfter hp

/-- **The tokens of a text stand in it.** -/
theorem isInfix_of_mem_pieces {t : Token} {cs : List Char} (h : Piece.token t ∈ pieces cs) :
    t.chars <:+: cs := by
  obtain ⟨ahead, behind, hpieces⟩ := List.append_of_mem h
  refine ⟨ahead.flatMap Piece.chars, behind.flatMap Piece.chars, ?_⟩
  have hcs := flatMap_chars_pieces cs
  rw [hpieces, List.flatMap_append, List.flatMap_cons, ← List.append_assoc] at hcs
  exact hcs

/-- **A text that begins with a token as texts have it** has this token as its first. -/
theorem IsWritten.first?_append {t : Token} (h : t.IsWritten) (rest : List Char) :
    first? (t.chars ++ rest) = some t := by
  obtain ⟨x, xs, hx, htail⟩ :
      ∃ x xs, Text.isWord x = false ∧ t.behind ++ '\x7d' :: '\x7d' :: rest = x :: xs := by
    cases hbehind : t.behind with
    | nil => exact ⟨_, _, Text.isWord_closing, rfl⟩
    | cons c cs =>
      exact ⟨c, _, Text.isWord_of_isBlank (h.behind c (hbehind ▸ List.mem_cons_self)), rfl⟩
  obtain ⟨c, cs, hletters⟩ := List.exists_cons_of_ne_nil h.named
  have hc : Text.isBlank c = false :=
    Text.isBlank_of_isWord (h.letters c (hletters ▸ List.mem_cons_self))
  have hchars : t.chars ++ rest = '\x7b' :: '\x7b' :: (t.before ++ (t.letters ++ x :: xs)) := by
    simp [chars, ← htail]
  rw [hchars, first?, hletters, List.cons_append, takeWhile_append_cons h.before hc,
    dropWhile_append_cons h.before hc, ← List.cons_append, ← hletters,
    takeWhile_append_cons h.letters hx, dropWhile_append_cons h.letters hx, ← htail,
    takeWhile_append_cons h.behind Text.isBlank_closing,
    dropWhile_append_cons h.behind Text.isBlank_closing]
  simp [h.named]

/-- **The text of a token tells which token it is.** -/
theorem eq_of_text_eq {t u : Token} (ht : t.IsWritten) (hu : u.IsWritten)
    (h : t.text = u.text) : t = u := by
  have hchars : t.chars = u.chars := String.ofList_injective h
  have hfirst := ht.first?_append []
  rw [hchars, hu.first?_append] at hfirst
  exact (Option.some.inj hfirst).symm

end Token

/-! ## The first token that is not bound

What a search reports is described by where it stands in the list of tokens: all tokens before it
are bound. -/

section

variable {values : Bindings} {ts : List Token} {tok : Token}

/-- **Whether a token is the first one that is not bound.** -/
def FirstUnbound (values : Bindings) (ts : List Token) (tok : Token) : Prop :=
  ∃ ahead behind, ts = ahead ++ tok :: behind ∧ (∀ u ∈ ahead, values.get? u.name ≠ none) ∧
    values.get? tok.name = none

theorem FirstUnbound.mem (h : FirstUnbound values ts tok) : tok ∈ ts := by
  obtain ⟨ahead, behind, rfl, -, -⟩ := h
  exact List.mem_append_right ahead List.mem_cons_self

theorem FirstUnbound.eq_none (h : FirstUnbound values ts tok) : values.get? tok.name = none := by
  obtain ⟨-, -, -, -, hunbound⟩ := h
  exact hunbound

/-- A search from the front reports it, and nothing else. -/
theorem find?_eq_some_iff_firstUnbound :
    (ts.find? fun t => (values.get? t.name).isNone) = some tok ↔ FirstUnbound values ts tok := by
  simp only [List.find?_eq_some_iff_append, Bool.not_eq_true', Option.isNone_eq_false_iff,
    Option.isSome_iff_ne_none, Option.isNone_iff_eq_none]
  constructor
  · rintro ⟨hunbound, ahead, behind, hts, hahead⟩
    exact ⟨ahead, behind, hts, hahead, hunbound⟩
  · rintro ⟨ahead, behind, hts, hahead, hunbound⟩
    exact ⟨hunbound, ahead, behind, hts, hahead⟩

theorem exists_firstUnbound_iff :
    (∃ tok, FirstUnbound values ts tok) ↔ ∃ tok ∈ ts, values.get? tok.name = none := by
  simp only [← find?_eq_some_iff_firstUnbound, ← Option.isSome_iff_exists, List.find?_isSome,
    Option.isNone_iff_eq_none]

/-- **The token that a text reports is its first one that is not bound.** -/
theorem unboundToken?_eq_some_iff {s : String} :
    unboundToken? values s = some tok ↔ FirstUnbound values (tokens s) tok :=
  find?_eq_some_iff_firstUnbound

/-- A text reports no token when all of its tokens are bound. -/
theorem unboundToken?_eq_none_iff {s : String} :
    unboundToken? values s = none ↔ ∀ tok ∈ tokens s, values.get? tok.name ≠ none := by
  simp [unboundToken?, Option.ne_none_iff_isSome]

end

/-! ## Texts filled -/

/-- **What a text is filled to depends on what the names of its tokens are bound to.** -/
theorem fill_congr {a b : Bindings} {s : String}
    (h : ∀ t ∈ tokens s, a.get? t.name = b.get? t.name) : fill a s = fill b s := by
  have hpieces : ∀ p ∈ pieces s.toList, Piece.fill a p = Piece.fill b p := fun p hp => by
    cases p with
    | char c => rfl
    | token t => rw [Piece.fill, Piece.fill, h t (List.mem_filterMap.2 ⟨_, hp, rfl⟩)]
  rw [fill, fill, List.flatMap_congr hpieces]

/-- A part of a text vanishes where it is a token that stands for an empty text. -/
theorem Piece.fill_eq_nil_iff {values : Bindings} {p : Piece} :
    p.fill values = [] ↔ ∃ t, p = .token t ∧ values.get? t.name = some "" := by
  cases p with
  | char c => exact ⟨nofun, nofun⟩
  | token t =>
    rw [fill]
    cases htext : values.get? t.name with
    | none => simp [Token.chars, htext]
    | some text => simp [htext]

/-- **A text is filled to nothing where it is made of tokens that stand for empty texts.** -/
theorem fill_eq_empty_iff {values : Bindings} {s : String} :
    fill values s = "" ↔
      ∀ p ∈ pieces s.toList, ∃ t, p = .token t ∧ values.get? t.name = some "" := by
  simp only [fill, String.ofList_eq_empty_iff, List.flatMap_eq_nil_iff, Piece.fill_eq_nil_iff]

end Template

end Deployment
