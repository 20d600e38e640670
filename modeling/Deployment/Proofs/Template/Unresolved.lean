import Deployment.Proofs.Manifest.Reading
import Deployment.Proofs.Template.Filling
import Deployment.Proofs.Template.Token

/-!
# Proofs/Template/Unresolved — tokens without a text

The tokens of a skeleton are those of its texts, in the order in which these stand (`tokensIn`), and
the first one that is not bound is reported (`fillSkeleton_eq_unresolved_iff`).  Looking for it and
filling are two walks over the same texts: a filling that halts where a token would be kept is the
same as one that keeps it, unless there is such a token (`agrees_fillValueStrict`).
`render_unresolved` says both of rendering.
-/

namespace Deployment.Template

/-! ## The first token that is not bound

A value lists its tokens in the order of the document: an entry has those of its key before those of
its value. -/

/-- **The tokens in a value**, in the order in which they stand. -/
def tokensIn (v : Value) : List Token := v.texts.flatMap tokens

theorem tokensIn_sequence (items : List Value) :
    tokensIn (.sequence items) = items.flatMap tokensIn := by
  rw [tokensIn, Value.texts_sequence, List.flatMap_assoc]
  rfl

/-- The tokens of a mapping are those of its keys and values, entry by entry. -/
theorem tokensIn_mapping (es : List (Value × Value)) :
    tokensIn (.mapping es) = es.flatMap fun e => tokensIn e.1 ++ tokensIn e.2 := by
  rw [tokensIn, Value.texts_mapping, List.flatMap_assoc]
  simp only [List.flatMap_append, tokensIn]

/-- **What is looked for in a value is found among its tokens.** -/
theorem unboundIn?_eq_find? (values : Bindings) (v : Value) :
    unboundIn? values v = (tokensIn v).find? fun t => (values.get? t.name).isNone := by
  induction v using Value.induct with
  | null => rfl
  | bool b => rfl
  | number n => rfl
  | string s =>
    rw [unboundIn?, unboundToken?, tokensIn, Value.texts, List.flatMap_singleton]
  | sequence items ih =>
    rw [unboundIn?, tokensIn_sequence]
    induction items with
    | nil => rfl
    | cons v vs ihvs =>
      rw [List.forall_mem_cons] at ih
      rw [unboundInItems?, ih.1, ihvs ih.2, List.flatMap_cons, List.find?_append]
  | mapping es ih =>
    rw [unboundIn?, tokensIn_mapping]
    induction es with
    | nil => rfl
    | cons e es ihes =>
      rw [List.forall_mem_cons] at ih
      rw [unboundInEntries?, ih.1.1, ih.1.2, ihes ih.2, List.flatMap_cons, List.find?_append,
        List.find?_append]
  | tagged tag v ih =>
    rw [unboundIn?, ih, tokensIn, tokensIn, Value.texts]

/-! ## What else is reported

Filling compares keys and looks up no token that the search before it has not found. -/

/-- **Filling never reports a token**, only keys that are taken. -/
theorem fillValue_ne_unresolved (values : Bindings) (v : Value) (s : String) :
    fillValue values .root v ≠ .error (.unresolvedToken s) := fun h => by
  -- a filling fails at one of its checks, and each of these is about a key
  obtain ⟨ahead, c, behind, hchecks, -, -, hviolation⟩ :=
    (reports values v []).eq_error_iff.1 h
  have hc : c ∈ (keysOf values [] v).map KeySite.check :=
    hchecks ▸ List.mem_append_right _ List.mem_cons_self
  obtain ⟨site, -, rfl⟩ := List.mem_map.1 hc
  change site.violation = _ at hviolation
  rw [KeySite.violation] at hviolation
  split at hviolation <;> cases hviolation

/-- **A skeleton is refused for a token** when this is the first one that is not bound. -/
theorem fillSkeleton_eq_unresolved_iff {skeleton : Value} {values : Bindings} {s : String} :
    fillSkeleton skeleton values = .error (.violation (.unresolvedToken s)) ↔
      ∃ tok, FirstUnbound values (tokensIn skeleton) tok ∧ tok.text = s := by
  simp only [← find?_eq_some_iff_firstUnbound, ← unboundIn?_eq_find?]
  rw [fillSkeleton]
  cases unboundIn? values skeleton with
  | some tok =>
    constructor
    · intro h
      obtain rfl := Violation.unresolvedToken.inj (CompileError.violation.inj (Except.error.inj h))
      exact ⟨tok, rfl, rfl⟩
    · rintro ⟨_, ⟨⟩, rfl⟩
      rfl
  | none =>
    constructor
    · intro h
      rcases Outcome.bind_eq_error.1 h with h | ⟨w, -, h⟩
      · rw [CompileError.ofViolation_eq_error_iff] at h
        exact absurd h (fillValue_ne_unresolved values skeleton s)
      · obtain ⟨name, hname⟩ := Document.exists_of_ofValue_violation h
        cases hname
    · rintro ⟨_, ⟨⟩, _⟩

/-! ## Filling without keeping a token

`fillValue` leaves a token as it stands when nothing is bound to it. The filling here stops instead,
and the two agree until then. -/

/-- **Why a filling halts** that keeps no token: at the token that it would keep, or for a
violation. -/
inductive Halt where
  | kept (t : Token)
  | broken (v : Violation)

/-- What a part becomes, if it need not be kept. -/
def Piece.fillStrict (values : Bindings) : Piece → Except Halt (List Char)
  | char c => return [c]
  | token t =>
    match values.get? t.name with
    | some text => return text.toList
    | none => throw (.kept t)

/-- What parts become, up to the first one to keep. -/
def fillPiecesStrict (values : Bindings) : List Piece → Except Halt (List Char)
  | [] => return []
  | p :: ps => do
    let cs ← p.fillStrict values
    return cs ++ (← fillPiecesStrict values ps)

/-- A text with its tokens replaced, up to the first one to keep. -/
def fillStrict (values : Bindings) (s : String) : Except Halt String :=
  String.ofList <$> fillPiecesStrict values (pieces s.toList)

mutual

/-- **A value with its tokens replaced, up to the first one to keep.**  This is `fillValue`, but for
what happens to a token that is not bound. -/
def fillValueStrict (values : Bindings) (level : Level) : Value → Except Halt Value
  | .string s => .string <$> fillStrict values s
  | .sequence items => .sequence <$> fillItemsStrict values items
  | .mapping entries => .mapping <$> fillEntriesStrict values level [] entries
  | .tagged tag v => .tagged tag <$> fillValueStrict values level v
  | v => return v

/-- Items with their tokens replaced, up to the first one to keep. -/
def fillItemsStrict (values : Bindings) : List Value → Except Halt (List Value)
  | [] => return []
  | v :: vs => do
    let v ← fillValueStrict values .nested v
    return v :: (← fillItemsStrict values vs)

/-- Entries with their tokens replaced, up to the first one to keep. -/
def fillEntriesStrict (values : Bindings) (level : Level) (earlier : List Value) :
    List (Value × Value) → Except Halt (List (Value × Value))
  | [] => return []
  | (k, v) :: es => do
    let key ← fillValueStrict values .nested k
    let v ← fillValueStrict values (level.under key) v
    if earlier.any fun e => Value.same e key then throw (.broken (collision level k key))
    return (key, v) :: (← fillEntriesStrict values level (key :: earlier) es)

end

/-- **Whether a strict filling is the same as another**, unless it halts at one of some tokens that
is not bound. -/
def Agrees {α : Type} (values : Bindings) (ts : List Token) (strict : Except Halt α)
    (x : Except Violation α) : Prop :=
  strict = x.mapError .broken ∨
    ∃ tok ∈ ts, values.get? tok.name = none ∧ strict = .error (.kept tok)

namespace Agrees

variable {α β : Type} {values : Bindings} {ts us : List Token} {strict : Except Halt α}
  {x : Except Violation α}

/-- What is done with the result does not matter to the agreement. -/
theorem map (h : Agrees values ts strict x) (f : α → β) :
    Agrees values ts (f <$> strict) (f <$> x) := by
  rcases h with rfl | ⟨tok, htok, hunbound, rfl⟩
  · refine Or.inl ?_
    cases x <;> rfl
  · exact Or.inr ⟨tok, htok, hunbound, rfl⟩

/-- **Chains agree when their steps do.** -/
theorem bind {f : α → Except Halt β} {g : α → Except Violation β} (h : Agrees values ts strict x)
    (hf : ∀ a, x = .ok a → Agrees values us (f a) (g a)) :
    Agrees values (ts ++ us) (strict >>= f) (x >>= g) := by
  rcases h with rfl | ⟨tok, htok, hunbound, rfl⟩
  · cases x with
    | error e => exact Or.inl rfl
    | ok a =>
      refine (hf a rfl).imp_right ?_
      rintro ⟨tok, htok, hunbound, h⟩
      exact ⟨tok, List.mem_append_right _ htok, hunbound, h⟩
  · exact Or.inr ⟨tok, List.mem_append_left _ htok, hunbound, rfl⟩

theorem guard {p : Prop} [Decidable p] {v : Violation} (h : Agrees values ts strict x) :
    Agrees values ts (if p then throw (.broken v) else strict) (if p then throw v else x) := by
  split
  · exact Or.inl rfl
  · exact h

end Agrees

section

variable {values : Bindings}

/-- Within a text, pieces are filled one after the other. -/
theorem agrees_fillPiecesStrict (ps : List Piece) :
    Agrees values (ps.filterMap Piece.token?) (fillPiecesStrict values ps)
      (.ok (ps.flatMap (Piece.fill values))) := by
  induction ps with
  | nil => exact Or.inl rfl
  | cons p ps ih =>
    cases p with
    | char c => exact ih.map (c :: ·)
    | token t =>
      cases htext : values.get? t.name with
      | none =>
        refine Or.inr ⟨t, List.mem_cons_self, htext, ?_⟩
        rw [fillPiecesStrict, Piece.fillStrict, htext]
        rfl
      | some text =>
        have hrest := ih.map (text.toList ++ ·)
        rw [fillPiecesStrict, Piece.fillStrict, htext, List.flatMap_cons, Piece.fill, htext]
        refine hrest.imp_right ?_
        rintro ⟨tok, htok, h⟩
        exact ⟨tok, List.mem_cons_of_mem _ htok, h⟩

/-- Whether filling a value strictly agrees with filling it, wherever it stands. -/
def FillsAlike (values : Bindings) (v : Value) : Prop :=
  ∀ level, Agrees values (tokensIn v) (fillValueStrict values level v) (fillValue values level v)

theorem agrees_fillItemsStrict {items : List Value} (h : ∀ v ∈ items, FillsAlike values v) :
    Agrees values (items.flatMap tokensIn) (fillItemsStrict values items)
      (fillItems values items) := by
  induction items with
  | nil => exact Or.inl rfl
  | cons v vs ih =>
    rw [List.forall_mem_cons] at h
    rw [fillItemsStrict, fillItems, List.flatMap_cons]
    exact (h.1 .nested).bind fun w _ => (ih h.2).map (w :: ·)

theorem agrees_fillEntriesStrict {level : Level} {earlier : List Value}
    {es : List (Value × Value)} (h : ∀ e ∈ es, FillsAlike values e.1 ∧ FillsAlike values e.2) :
    Agrees values (es.flatMap fun e => tokensIn e.1 ++ tokensIn e.2)
      (fillEntriesStrict values level earlier es) (fillEntries values level earlier es) := by
  induction es generalizing earlier with
  | nil => exact Or.inl rfl
  | cons e es ih =>
    obtain ⟨k, v⟩ := e
    rw [List.forall_mem_cons] at h
    obtain ⟨⟨hk, hv⟩, hes⟩ := h
    rw [fillEntriesStrict, fillEntries, List.flatMap_cons, List.append_assoc]
    -- the key that was filled goes on to the value, the guard and the entries behind, so both
    -- walks go on from the same one
    refine (hk .nested).bind fun key _ => (hv (level.under key)).bind fun w _ => ?_
    simp only [Outcome.throw_bind]
    exact ((ih hes).map ((key, w) :: ·)).guard

/-- **A filling that keeps no token is the same as one that does**, unless it comes to a token that
is not bound. -/
theorem agrees_fillValueStrict (values : Bindings) (v : Value) : FillsAlike values v := by
  induction v using Value.induct with
  | null => exact fun _ => Or.inl rfl
  | bool b => exact fun _ => Or.inl rfl
  | number n => exact fun _ => Or.inl rfl
  | string s =>
    intro level
    have htokens : tokensIn (.string s) = tokens s := List.flatMap_singleton tokens s
    rw [htokens, fillValueStrict, fillStrict]
    exact ((agrees_fillPiecesStrict _).map String.ofList).map Value.string
  | sequence items ih =>
    intro level
    rw [tokensIn_sequence, fillValueStrict, fillValue]
    exact (agrees_fillItemsStrict ih).map Value.sequence
  | mapping es ih =>
    intro level
    rw [tokensIn_mapping, fillValueStrict, fillValue]
    exact (agrees_fillEntriesStrict ih).map Value.mapping
  | tagged tag v ih =>
    intro level
    rw [fillValueStrict, fillValue]
    exact (ih level).map (Value.tagged tag)

end

/-! ## Rendering -/

/-- A template whose variables are resolved is rendered by filling its skeleton. -/
theorem render_eq_fillSkeleton {t : Template} {supplied r : Bindings}
    (h : t.resolve supplied = .ok r) : t.render supplied = fillSkeleton t.skeleton r := by
  rw [render, h]
  rfl

/-- **A template is refused for a token exactly when one of its skeleton is not bound**, and for the
first one.  Where all are bound, filling never comes to a token to keep: halting there changes
nothing, whatever the texts are. -/
theorem render_unresolved {t : Template} {supplied r : Bindings}
    (h : t.resolve supplied = .ok r) :
    ((∃ s, t.render supplied = .error (.violation (.unresolvedToken s))) ↔
        ∃ tok ∈ tokensIn t.skeleton, r.get? tok.name = none) ∧
      (∀ s, t.render supplied = .error (.violation (.unresolvedToken s)) ↔
        ∃ tok, FirstUnbound r (tokensIn t.skeleton) tok ∧ tok.text = s) ∧
      ((∀ tok ∈ tokensIn t.skeleton, r.get? tok.name ≠ none) →
        fillValueStrict r .root t.skeleton = (fillValue r .root t.skeleton).mapError .broken) := by
  rw [render_eq_fillSkeleton h]
  refine ⟨?_, fun s => fillSkeleton_eq_unresolved_iff, fun hbound => ?_⟩
  · simp only [fillSkeleton_eq_unresolved_iff, ← exists_firstUnbound_iff]
    exact ⟨fun ⟨_, tok, htok, _⟩ => ⟨tok, htok⟩, fun ⟨tok, htok⟩ => ⟨_, tok, htok, rfl⟩⟩
  · rcases agrees_fillValueStrict r t.skeleton .root with hsame | ⟨tok, htok, hunbound, -⟩
    · exact hsame
    · exact absurd hunbound (hbound tok htok)

/-- A template with tokens in a mapping that is a key, and under a tag. -/
def guestBook : Template where
  id := "guest-book"
  name := "Guest Book"
  category := .static
  skeleton := .mapping [(.mapping [(.string "\x7b\x7bowner\x7d\x7d", .null)],
    .tagged "seen" (.sequence [.string "by \x7b\x7b guest \x7d\x7d, \x7b\x7bhost\x7d\x7d"]))]
  declared := [{ name := "owner", required := true }]

/-- The token that is reported stands in the skeleton, not in the text that was supplied. -/
theorem render_guestBook :
    ∃ r, guestBook.resolve (.ofList [("owner", "\x7b\x7bguest\x7d\x7d")]) = .ok r ∧
      guestBook.render (.ofList [("owner", "\x7b\x7bguest\x7d\x7d")]) =
        .error (.violation (.unresolvedToken "\x7b\x7b guest \x7d\x7d")) := by
  have hr : guestBook.resolve (.ofList [("owner", "\x7b\x7bguest\x7d\x7d")]) =
      .ok (.ofList [("owner", "\x7b\x7bguest\x7d\x7d")]) := by decide +kernel
  have hfirst : FirstUnbound (.ofList [("owner", "\x7b\x7bguest\x7d\x7d")])
      (tokensIn guestBook.skeleton) ⟨[' '], "guest".toList, [' ']⟩ := by
    refine ⟨[⟨[], "owner".toList, []⟩], [⟨[], "host".toList, []⟩], ?_, ?_, ?_⟩
    all_goals decide +kernel
  have htext : Token.text ⟨[' '], "guest".toList, [' ']⟩ = "\x7b\x7b guest \x7d\x7d" := by decide
  exact ⟨_, hr, ((render_unresolved hr).2.1 _).2 ⟨_, hfirst, htext⟩⟩

end Deployment.Template
