import Deployment.Proofs.Template.Token

/-!
# Proofs/Template/Parts — texts written as literals and tokens

A token that begins in a literal cannot end behind it, however many braces there are
(`Token.first?_append_eq_none`), so a text is read as the literals and tokens that it is written as,
unless a literal holds a token itself (`pieces_append_written`).  Its tokens are then found in their
order, and what takes their place is not read again (`Proper.read_written`).
-/

namespace Deployment.Template

/-! ## Texts that hold tokens

A text is cut into pieces from the left. A literal without a token may still end in an open brace,
so what stands behind it has to be taken into account as well. -/

/-- **Whether characters hold a token**: blanks, a name and blanks between braces. -/
def HoldsToken (cs : List Char) : Prop := ∃ t : Token, t.IsWritten ∧ t.chars <:+: cs

/-- **Characters hold a token exactly where one is read in them.** -/
theorem holdsToken_iff {cs : List Char} : HoldsToken cs ↔ ∃ t, Piece.token t ∈ pieces cs := by
  constructor
  · rintro ⟨t, ht, before, behind, rfl⟩
    rw [List.append_assoc]
    -- the first token that is read may be one that begins before `t` does
    induction before with
    | nil => exact ⟨t, by simp [pieces_of_first? (ht.first?_append behind) rfl]⟩
    | cons c before ih =>
      rw [List.cons_append]
      cases hfirst : Token.first? (c :: (before ++ (t.chars ++ behind))) with
      | some u =>
        obtain ⟨rest, hrest⟩ := Token.exists_append_of_first? hfirst
        exact ⟨u, by simp [pieces_of_first? hfirst hrest]⟩
      | none =>
        obtain ⟨u, hu⟩ := ih
        exact ⟨u, by simp [pieces_of_first?_eq_none hfirst, hu]⟩
  · rintro ⟨t, ht⟩
    exact ⟨t, Token.isWritten_of_mem_piecesAfter ht, Token.isInfix_of_mem_pieces ht⟩

/-- Whether characters hold a token can be computed: cut them into pieces and look. -/
theorem exists_isSome_token?_iff {cs : List Char} :
    (∃ p ∈ pieces cs, p.token?.isSome = true) ↔ HoldsToken cs := by
  rw [holdsToken_iff]
  constructor
  · rintro ⟨p, hp, hsome⟩
    cases p with
    | char c => exact absurd hsome Bool.false_ne_true
    | token t => exact ⟨t, hp⟩
  · rintro ⟨t, ht⟩
    exact ⟨_, ht, rfl⟩

instance (cs : List Char) : Decidable (HoldsToken cs) :=
  decidable_of_iff _ exists_isSome_token?_iff

/-- More characters in front do not take the token away. -/
theorem HoldsToken.cons {c : Char} {cs : List Char} (h : HoldsToken cs) : HoldsToken (c :: cs) := by
  obtain ⟨t, ht, hinfix⟩ := h
  exact ⟨t, ht, List.infix_cons hinfix⟩

namespace Token

variable {t : Token} {c : Char} {cs : List Char}

/-- Where no token is held, none is first. -/
theorem first?_eq_none_of_not_holdsToken (h : ¬ HoldsToken cs) : first? cs = none := by
  refine Option.eq_none_iff_forall_ne_some.2 fun u hu => h ?_
  obtain ⟨rest, rfl⟩ := exists_append_of_first? hu
  exact ⟨u, isWritten_of_first? hu, (List.prefix_append _ _).isInfix⟩

/-- **A token has two opening braces, at its begin**, and something other behind them. -/
theorem IsWritten.exists_chars_eq (h : t.IsWritten) :
    ∃ d ds, t.chars = '\x7b' :: '\x7b' :: d :: ds ∧ '\x7b' ∉ d :: ds := by
  have hno : '\x7b' ∉ t.before ++ t.letters ++ t.behind ++ ['\x7d', '\x7d'] := by
    simp only [List.mem_append, not_or]
    refine ⟨⟨⟨fun hmem => ?_, fun hmem => ?_⟩, fun hmem => ?_⟩, by decide⟩
    · exact absurd (h.before _ hmem) (by decide +kernel)
    · exact absurd (h.letters _ hmem) (by decide +kernel)
    · exact absurd (h.behind _ hmem) (by decide +kernel)
  obtain ⟨d, ds, heq⟩ := List.exists_cons_of_ne_nil
    (l := t.before ++ t.letters ++ t.behind ++ ['\x7d', '\x7d']) (by simp)
  refine ⟨d, ds, ?_, heq ▸ hno⟩
  rw [← heq]
  simp [chars]

/-- **No token begins in a literal and ends behind it**, where another one begins. -/
theorem first?_append_eq_none (ht : t.IsWritten) (h : ¬ HoldsToken (c :: cs)) (rest : List Char) :
    first? (c :: cs ++ (t.chars ++ rest)) = none := by
  refine Option.eq_none_iff_forall_ne_some.2 fun u hfirst => ?_
  have hu := isWritten_of_first? hfirst
  obtain ⟨rest', hrest⟩ := exists_append_of_first? hfirst
  obtain ⟨d, ds, htchars, -⟩ := ht.exists_chars_eq
  obtain ⟨e, es, huchars, hno⟩ := hu.exists_chars_eq
  rcases List.append_eq_append_iff.1 hrest with ⟨later, hlead, hover⟩ | ⟨left, hlead, -⟩
  · rw [huchars] at hlead
    rw [htchars] at hover
    cases later with
    | nil =>
      rw [List.append_nil, ← huchars] at hlead
      exact h ⟨u, hu, hlead ▸ List.infix_rfl⟩
    | cons b later =>
      -- the braces that `t` begins with would stand in `u`, and not both at its begin
      obtain ⟨hb, hbehind⟩ := List.cons.inj hover
      cases cs with
      | nil =>
        obtain ⟨-, rfl⟩ := List.cons.inj (List.cons.inj hlead).2
        exact hno (List.mem_cons.2 (Or.inl (List.cons.inj hbehind).1))
      | cons a cs =>
        have hrest : e :: es = cs ++ b :: later := (List.cons.inj (List.cons.inj hlead).2).2
        exact hno (hrest ▸ hb ▸ List.mem_append_right cs List.mem_cons_self)
  · exact h ⟨u, hu, hlead ▸ (List.prefix_append _ _).isInfix⟩

end Token

/-- Characters that hold no token are read one by one. -/
theorem pieces_of_not_holdsToken {cs : List Char} (h : ¬ HoldsToken cs) :
    pieces cs = cs.map Piece.char := by
  induction cs with
  | nil => rfl
  | cons c cs ih =>
    rw [pieces_of_first?_eq_none (Token.first?_eq_none_of_not_holdsToken h),
      ih (mt HoldsToken.cons h), List.map_cons]

/-- **A literal in front of a token** is read one by one, then the token, then what follows. -/
theorem pieces_append_token {lead : List Char} {t : Token} (h : ¬ HoldsToken lead)
    (ht : t.IsWritten) (rest : List Char) :
    pieces (lead ++ (t.chars ++ rest)) = lead.map Piece.char ++ .token t :: pieces rest := by
  induction lead with
  | nil => exact pieces_of_first? (ht.first?_append rest) rfl
  | cons c lead ih =>
    have hfirst := Token.first?_append_eq_none ht h rest
    rw [List.cons_append] at hfirst ⊢
    rw [pieces_of_first?_eq_none hfirst, ih (mt HoldsToken.cons h), List.map_cons,
      List.cons_append]

/-! ## Texts in parts -/

/-- **A part of a text as it is written**: a literal, or a token. -/
inductive Part where
  | literal (s : String)
  | token (t : Token)
  deriving DecidableEq

namespace Part

/-- The text of a part. -/
def text : Part → String
  | literal s => s
  | token t => t.text

/-- The token that a part is. -/
def token? : Part → Option Token
  | literal _ => none
  | token t => some t

/-- A part, or the text that takes its place: a token whose name is bound gives way to the text. -/
def replaced (values : Bindings) : Part → Part
  | literal s => literal s
  | token t =>
    match values.get? t.name with
    | some text => literal text
    | none => token t

/-- What a part is read as. -/
def reading : Part → List Piece
  | literal s => s.toList.map Piece.char
  | token t => [.token t]

theorem filterMap_reading (p : Part) : p.reading.filterMap Piece.token? = p.token?.toList := by
  cases p with
  | literal s => simp [reading, token?, Piece.token?]
  | token t => rfl

theorem flatMap_reading (values : Bindings) (p : Part) :
    p.reading.flatMap (Piece.fill values) = (p.replaced values).text.toList := by
  cases p with
  | literal s => simp [reading, replaced, text, List.flatMap_map, Piece.fill]
  | token t =>
    rw [reading, replaced, List.flatMap_singleton, Piece.fill]
    cases values.get? t.name with
    | none => exact (String.toList_ofList).symm
    | some s => rfl

end Part

/-- The text that parts make. -/
def written (ps : List Part) : String := String.join (ps.map Part.text)

theorem toList_written (ps : List Part) :
    (written ps).toList = ps.flatMap fun p => p.text.toList := by
  rw [written, String.toList_join, List.flatMap_map]

theorem toList_written_cons (p : Part) (ps : List Part) :
    (written (p :: ps)).toList = p.text.toList ++ (written ps).toList := by
  rw [toList_written, toList_written, List.flatMap_cons]

/-- **The literals of parts**, each from one token to the next: the first begins with the characters
given, and literals that follow each other are one. -/
def literalsAfter : List Char → List Part → List (List Char)
  | lead, [] => [lead]
  | lead, .literal s :: ps => literalsAfter (lead ++ s.toList) ps
  | lead, .token _ :: ps => lead :: literalsAfter [] ps

/-- **Parts that are told apart**: the tokens are written as such, and no literal holds one. -/
structure Proper (ps : List Part) : Prop where
  tokens : ∀ t, .token t ∈ ps → t.IsWritten
  literals : ∀ cs ∈ literalsAfter [] ps, ¬ HoldsToken cs

/-- **A text is read as it was written.** -/
theorem pieces_append_written {lead : List Char} {ps : List Part}
    (htokens : ∀ t, .token t ∈ ps → t.IsWritten)
    (hliterals : ∀ cs ∈ literalsAfter lead ps, ¬ HoldsToken cs) :
    pieces (lead ++ (written ps).toList) = lead.map Piece.char ++ ps.flatMap Part.reading := by
  induction ps generalizing lead with
  | nil =>
    rw [toList_written, List.flatMap_nil, List.flatMap_nil, List.append_nil, List.append_nil]
    exact pieces_of_not_holdsToken (hliterals lead List.mem_cons_self)
  | cons p ps ih =>
    have htokens' : ∀ t, .token t ∈ ps → t.IsWritten := fun t ht =>
      htokens t (List.mem_cons_of_mem p ht)
    rw [toList_written_cons, List.flatMap_cons]
    cases p with
    | literal s =>
      -- a literal only grows `lead`; at a token all of it is known to hold none
      rw [← List.append_assoc, Part.text, ih htokens' hliterals, List.map_append,
        List.append_assoc, Part.reading]
    | token t =>
      rw [literalsAfter, List.forall_mem_cons] at hliterals
      have hrest := ih htokens' hliterals.2
      rw [List.nil_append] at hrest
      rw [Part.text, Token.text, String.toList_ofList,
        pieces_append_token hliterals.1 (htokens t List.mem_cons_self), hrest]
      rfl

namespace Proper

variable {ps : List Part}

/-- **Parts that are proper are read as they were written.** -/
theorem pieces_written (h : Proper ps) : pieces (written ps).toList = ps.flatMap Part.reading :=
  @pieces_append_written [] ps h.tokens h.literals

theorem tokens_written (h : Proper ps) :
    Template.tokens (written ps) = ps.filterMap Part.token? := by
  rw [Template.tokens, h.pieces_written, List.filterMap_flatMap, List.filterMap_eq_flatMap_toList]
  exact List.flatMap_congr fun p _ => p.filterMap_reading

/-- **A text that is filled is made of the same parts**, with the tokens that are bound replaced. -/
theorem fill_written (h : Proper ps) (values : Bindings) :
    fill values (written ps) = written (ps.map (Part.replaced values)) := by
  rw [← String.toList_inj, fill, String.toList_ofList, h.pieces_written, List.flatMap_assoc,
    toList_written, List.flatMap_map]
  exact List.flatMap_congr fun p _ => p.flatMap_reading values

/-- **What is found in a text and what the text is filled to**: the first of its tokens that is not
bound, and the same parts with the other tokens replaced, whatever the texts in their place are. -/
theorem read_written (h : Proper ps) (values : Bindings) :
    (∀ t, unboundToken? values (written ps) = some t ↔
        FirstUnbound values (ps.filterMap Part.token?) t) ∧
      (unboundToken? values (written ps) = none ↔
        ∀ t ∈ ps.filterMap Part.token?, values.get? t.name ≠ none) ∧
      fill values (written ps) = written (ps.map (Part.replaced values)) := by
  refine ⟨fun t => ?_, ?_, h.fill_written values⟩
  · rw [unboundToken?_eq_some_iff, h.tokens_written]
  · rw [unboundToken?_eq_none_iff, h.tokens_written]

end Proper

/-- A text whose literals have braces next to those of its token. -/
def braced : List Part := [.literal "\x7b", .token ⟨[' '], ['a'], []⟩, .literal " \x7d\x7d"]

/-- A token that a text in place of another and the literals around it spell is not replaced. -/
theorem fill_braced :
    Proper braced ∧
      fill (.ofList [("a", "\x7bb"), ("b", "c")]) (written braced) = "\x7b\x7bb \x7d\x7d" := by
  have hproper : Proper braced := by
    refine ⟨fun t ht => ?_, by decide +kernel⟩
    obtain rfl : t = ⟨[' '], ['a'], []⟩ := by simpa [braced] using ht
    exact ⟨List.forall_mem_singleton.2 (by decide +kernel),
      List.forall_mem_singleton.2 (by decide +kernel), List.cons_ne_nil _ _,
      List.forall_mem_nil _⟩
  refine ⟨hproper, ?_⟩
  rw [(hproper.read_written _).2.2]
  decide +kernel

end Deployment.Template
