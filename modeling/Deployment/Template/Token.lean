import Deployment.Bindings
import Deployment.Text.Blank
import Deployment.Text.Word

/-!
# Template/Token — texts with gaps

A token is two opening braces, a name of word characters with blanks around it, and two closing
braces. A text is read from left to right as tokens and single characters, which give the text back
(`flatMap_chars_pieces`). Texts that take the place of tokens are not read again.
-/

namespace Deployment.Template

/-- A token as it is written. -/
structure Token where
  before : List Char
  letters : List Char
  behind : List Char
  deriving DecidableEq

namespace Token

/-- The characters of a token. -/
def chars (t : Token) : List Char :=
  ['\x7b', '\x7b'] ++ t.before ++ t.letters ++ t.behind ++ ['\x7d', '\x7d']

/-- The text of a token. -/
def text (t : Token) : String := String.ofList t.chars

/-- The name in a token. -/
def name (t : Token) : String := String.ofList t.letters

/-- The token that a text begins with. -/
def first? : List Char → Option Token
  | '\x7b' :: '\x7b' :: cs =>
    let inner := cs.dropWhile Text.isBlank
    let letters := inner.takeWhile Text.isWord
    let after := inner.dropWhile Text.isWord
    if !letters.isEmpty && ['\x7d', '\x7d'].isPrefixOf (after.dropWhile Text.isBlank) then
      some ⟨cs.takeWhile Text.isBlank, letters, after.takeWhile Text.isBlank⟩
    else none
  | _ => none

/-- A text begins with the characters of its first token. -/
theorem exists_append_of_first? {cs : List Char} {t : Token} (h : first? cs = some t) :
    ∃ rest, cs = t.chars ++ rest := by
  unfold first? at h
  split at h
  · rename_i cs
    simp only at h
    split at h
    · rename_i hc
      obtain rfl := Option.some.inj h
      simp only [Bool.and_eq_true, List.isPrefixOf_iff_prefix] at hc
      obtain ⟨rest, hrest⟩ := hc.2
      refine ⟨rest, ?_⟩
      have e1 := List.takeWhile_append_dropWhile (p := Text.isBlank) (l := cs)
      have e2 := List.takeWhile_append_dropWhile (p := Text.isWord)
        (l := cs.dropWhile Text.isBlank)
      have e3 := List.takeWhile_append_dropWhile (p := Text.isBlank)
        (l := (cs.dropWhile Text.isBlank).dropWhile Text.isWord)
      simp only [chars, List.cons_append, List.nil_append, List.append_assoc] at hrest ⊢
      rw [hrest, e3, e2, e1]
    · cases h
  · cases h

end Token

/-- A part of a text. -/
inductive Piece where
  | char (c : Char)
  | token (t : Token)
  deriving DecidableEq

namespace Piece

/-- The characters of a part. -/
def chars : Piece → List Char
  | char c => [c]
  | token t => t.chars

/-- The token that a part is. -/
def token? : Piece → Option Token
  | char _ => none
  | token t => some t

/-- What a part becomes: a token whose name is bound gives way to the text, all else stays. -/
def fill (values : Bindings) : Piece → List Char
  | char c => [c]
  | token t =>
    match values.get? t.name with
    | some text => text.toList
    | none => t.chars

end Piece

/-- The parts of a text behind its first characters, which belong to a token before. -/
def piecesAfter : Nat → List Char → List Piece
  | _, [] => []
  | skip + 1, _ :: cs => piecesAfter skip cs
  | 0, c :: cs =>
    match Token.first? (c :: cs) with
    | some t => .token t :: piecesAfter (t.chars.length - 1) cs
    | none => .char c :: piecesAfter 0 cs

/-- The parts of a text. -/
def pieces (cs : List Char) : List Piece := piecesAfter 0 cs

/-- Characters that belong to a token before are passed over. -/
theorem piecesAfter_append (before cs : List Char) :
    piecesAfter before.length (before ++ cs) = pieces cs := by
  induction before with
  | nil => rfl
  | cons b before ih => exact ih

/-- **A text that begins with a token** is that token and what follows it. -/
theorem pieces_of_first? {cs rest : List Char} {t : Token} (h : Token.first? cs = some t)
    (hcs : cs = t.chars ++ rest) : pieces cs = .token t :: pieces rest := by
  subst hcs
  have hne : t.chars = '\x7b' :: (t.chars.drop 1) := by simp [Token.chars]
  rw [hne, List.cons_append] at h ⊢
  have hlen : t.chars.length - 1 = (t.chars.drop 1).length := by simp
  rw [pieces, piecesAfter, h]
  simp only
  rw [hlen, piecesAfter_append]

/-- A text that does not begin with a token is its first character and what follows it. -/
theorem pieces_of_first?_eq_none {c : Char} {cs : List Char} (h : Token.first? (c :: cs) = none) :
    pieces (c :: cs) = .char c :: pieces cs := by
  rw [pieces, piecesAfter, h]
  rfl

/-- **The parts of a text give it back.** -/
theorem flatMap_chars_pieces (cs : List Char) : (pieces cs).flatMap Piece.chars = cs := by
  induction hn : cs.length using Nat.strongRecOn generalizing cs with
  | ind n ih =>
    match cs with
    | [] => rfl
    | c :: cs =>
      cases h : Token.first? (c :: cs) with
      | none =>
        rw [pieces_of_first?_eq_none h, List.flatMap_cons, ih cs.length (by simp [← hn]) cs rfl]
        rfl
      | some t =>
        obtain ⟨rest, hrest⟩ := Token.exists_append_of_first? h
        have hlt : rest.length < n := by
          have := congrArg List.length hrest
          simp only [Token.chars, List.length_append, List.length_cons, List.length_nil] at this
          simp only [List.length_cons] at hn
          omega
        rw [pieces_of_first? h hrest, List.flatMap_cons, ih rest.length hlt rest rfl, hrest]
        rfl

/-- The tokens of a text. -/
def tokens (s : String) : List Token := (pieces s.toList).filterMap Piece.token?

/-- The first token of a text whose name is not bound. -/
def unboundToken? (values : Bindings) (s : String) : Option Token :=
  (tokens s).find? fun t => (values.get? t.name).isNone

/-- A text with bound tokens replaced. -/
def fill (values : Bindings) (s : String) : String :=
  String.ofList ((pieces s.toList).flatMap (Piece.fill values))

end Deployment.Template
