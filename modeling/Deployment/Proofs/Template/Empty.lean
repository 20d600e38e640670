import Deployment.Proofs.Entries
import Deployment.Proofs.Template.Resolution
import Deployment.Proofs.Template.Token
import Deployment.Template.Rendering

/-!
# Proofs/Template/Empty — empty texts

An empty text counts as none where a variable is given it or declares it as its default, but not
everywhere.  A default is looked at before its tokens are replaced, so a required variable may still
get an empty text (`Template.get?_resolve_of_required`); and an empty text supplied is bound until
its variable is resolved, so a default that comes before may mention it
(`Template.resolve_without_emptyNames`).
-/

namespace Deployment.Template

open Variable (resolveAll)

/-! ## Required variables -/

/-- **Whether a variable is left with an empty text after others**: none is supplied for it, and it
has no default and is optional, or a default of nothing but tokens that stand for empty texts. -/
def Variable.IsEmptied (supplied earlier : Bindings) (v : Variable) : Prop :=
  given? (supplied.get? v.name) = none ∧
    (given? v.fallback = none ∧ v.required = false ∨
      ∃ text, given? v.fallback = some text ∧
        ∀ p ∈ pieces text.toList, ∃ tok, p = .token tok ∧ earlier.get? tok.name = some "")

/-- **Whether a name is left with an empty text**, which its last declaration decides. -/
def LeavesEmpty (t : Template) (supplied : Bindings) (x : String) : Prop :=
  ∃ before v after earlier, t.declared = before ++ v :: after ∧ v.name = x ∧
    x ∉ after.map Variable.name ∧ resolveAll supplied supplied before = .ok earlier ∧
    v.IsEmptied supplied earlier

variable {t : Template} {supplied r : Bindings}

/-- What a variable gets is empty where its default is filled to nothing, or where it gets
nothing. -/
theorem Variable.Gets.eq_empty_iff {v : Variable} {earlier : Bindings} {text : String}
    (h : v.Gets supplied earlier text) : text = "" ↔ v.IsEmptied supplied earlier := by
  cases h with
  | given hgiven haccepts =>
    have hne : text ≠ "" := (given?_eq_some_iff.1 hgiven).2
    exact ⟨fun h => absurd h hne, fun h => nomatch hgiven.symm.trans h.1⟩
  | @fallback default hgiven hfallback hbound haccepts =>
    rw [fill_eq_empty_iff]
    constructor
    · intro hpieces
      exact ⟨hgiven, Or.inr ⟨default, hfallback, hpieces⟩⟩
    · rintro ⟨-, ⟨hnone, -⟩ | ⟨s, hs, hpieces⟩⟩
      · exact nomatch hfallback.symm.trans hnone
      · obtain rfl := Option.some.inj (hfallback.symm.trans hs)
        exact hpieces
  | nothing hgiven hfallback hoptional =>
    exact ⟨fun _ => ⟨hgiven, Or.inl ⟨hfallback, hoptional⟩⟩, fun _ => rfl⟩

/-- **Declared names are bound to a text, which is empty exactly where they are left so.** -/
theorem exists_get?_resolve_of_mem_names (h : t.resolve supplied = .ok r) {x : String}
    (hx : x ∈ t.names) : ∃ text, r.get? x = some text ∧ (text = "" ↔ t.LeavesEmpty supplied x) := by
  obtain ⟨before, v, after, hsplit, rfl, hlast⟩ := Variable.exists_last hx
  have hrun := h
  rw [resolve, hsplit] at hrun
  obtain ⟨earlier, text, hearlier, hgets, hr⟩ := Variable.exists_gets_of_resolveAll hrun
  refine ⟨text, hr hlast, fun hempty => ?_, ?_⟩
  · exact ⟨before, v, after, earlier, hsplit, rfl, hlast, hearlier, hgets.eq_empty_iff.1 hempty⟩
  · rintro ⟨init, w, rest, sofar, hsplit', hname, hlast', hsofar, hemptied⟩
    -- the declaration that leaves the name empty is not known to be `v`, but it settles the same
    -- binding
    rw [resolve, hsplit'] at h
    obtain ⟨_, found, heq, hfound, hr'⟩ := Variable.exists_gets_of_resolveAll h
    obtain rfl := Except.ok.inj (heq.symm.trans hsofar)
    have htext : text = found :=
      Option.some.inj ((hr hlast).symm.trans (hname ▸ hr' (hname ▸ hlast')))
    rw [htext]
    exact hfound.eq_empty_iff.2 hemptied

/-- **A required variable that has nothing to get is missing**, once those before it are
resolved. -/
theorem resolve_eq_missing {before after : List Variable} {v : Variable}
    (hsplit : t.declared = before ++ v :: after) (hrequired : v.required = true)
    (hgiven : given? (supplied.get? v.name) = none) (hfallback : given? v.fallback = none) :
    t.resolve supplied =
      resolveAll supplied supplied before >>= fun _ => throw (.missingVariable v.name) := by
  have hmissing (earlier : Bindings) :
      v.resolve supplied earlier = throw (.missingVariable v.name) := by
    rw [Variable.resolve_eq, Variable.textFor_of_nothing hgiven hfallback, Variable.taken,
      if_pos hrequired]
    rfl
  rw [resolve, hsplit, Variable.resolveAll_append]
  simp only [resolveAll, hmissing, Outcome.throw_bind]

/-- **A required variable is missing or gets a text, and the text is empty only where a default
makes it so**: its own by tokens that all stand for empty texts, or the lack of one where its name
is declared again. -/
theorem get?_resolve_of_required {before after : List Variable} {v : Variable}
    (hsplit : t.declared = before ++ v :: after) (hrequired : v.required = true) :
    (given? (supplied.get? v.name) = none → given? v.fallback = none →
      t.resolve supplied =
        resolveAll supplied supplied before >>= fun _ => throw (.missingVariable v.name)) ∧
    ∀ r, t.resolve supplied = .ok r →
      ∃ text, r.get? v.name = some text ∧ (text = "" ↔ t.LeavesEmpty supplied v.name) := by
  have hname : v.name ∈ t.names := by
    rw [names, hsplit, List.map_append, List.map_cons]
    exact List.mem_append_right _ List.mem_cons_self
  exact ⟨resolve_eq_missing hsplit hrequired,
    fun r h => exists_get?_resolve_of_mem_names h hname⟩

/-- A template with an optional variable, and a required one with a default. -/
def titled (fallback : String) : Template where
  id := "titled"
  name := "Titled"
  category := .static
  skeleton := .null
  declared := [{ name := "suffix" },
    { name := "title", fallback := some fallback, required := true }]

theorem get?_resolve_titled :
    ∃ r, (titled "Blog\x7b\x7bsuffix\x7d\x7d").resolve {} = .ok r ∧
      r.get? "title" = some "Blog" ∧
      ¬ (titled "Blog\x7b\x7bsuffix\x7d\x7d").LeavesEmpty {} "title" := by
  obtain ⟨r, hr⟩ := Outcome.exists_of_isOk
    (x := (titled "Blog\x7b\x7bsuffix\x7d\x7d").resolve {}) (by decide +kernel)
  have hsplit : (titled "Blog\x7b\x7bsuffix\x7d\x7d").declared = [{ name := "suffix" }] ++
      { name := "title", fallback := some "Blog\x7b\x7bsuffix\x7d\x7d", required := true } :: [] :=
    rfl
  obtain ⟨text, htext, hempty⟩ := (get?_resolve_of_required hsplit rfl).2 r hr
  have hr' : (titled "Blog\x7b\x7bsuffix\x7d\x7d").resolve {} =
      .ok (.ofList [("suffix", ""), ("title", "Blog")]) := by decide +kernel
  obtain rfl := Except.ok.inj (hr.symm.trans hr')
  obtain rfl : "Blog" = text := Option.some.inj htext
  exact ⟨_, hr, htext, fun h => nomatch hempty.2 h⟩

/-- **A required variable may get an empty text**, from a default that mentions another. -/
theorem get?_resolve_emptied :
    ∃ v ∈ (titled "\x7b\x7bsuffix\x7d\x7d").declared, v.required = true ∧
      ∃ r, (titled "\x7b\x7bsuffix\x7d\x7d").resolve {} = .ok r ∧ r.get? v.name = some "" := by
  refine ⟨_, .tail _ (.head _), rfl, .ofList [("suffix", ""), ("title", "")], ?_, ?_⟩
  · decide +kernel
  · decide +kernel

/-! ## Empty texts supplied

An empty text that is supplied counts as absent for its own variable only. To the tokens of earlier
defaults it is a binding, and without it they name nothing. -/

/-- The declared names for which an empty text is supplied. -/
def emptyNames (t : Template) (supplied : Bindings) : List String :=
  t.names.filter fun x => supplied.get? x = some ""

/-- **A default that is taken mentions one of some names before it is declared.** -/
def MentionsEarly (supplied : Bindings) (names : List String) (vs : List Variable) (tok : Token) :
    Prop :=
  ∃ before v after, vs = before ++ v :: after ∧ v.Mentions supplied tok ∧ tok.name ∈ names ∧
    tok.name ∉ before.map Variable.name

section

variable {values resolved : Bindings} {names absent : List String}

/-- **Where names are left out**, the first token that is unbound is the same, or has one of these
names. -/
theorem unboundToken?_without (values : Bindings) (names : List String) (text : String) :
    unboundToken? (values.without names) text = unboundToken? values text ∨
      ∃ tok ∈ tokens text, tok.name ∈ names ∧
        unboundToken? (values.without names) text = some tok := by
  cases hfirst : unboundToken? (values.without names) text with
  | none =>
    refine Or.inl (unboundToken?_eq_none_iff.2 fun tok htok hunbound => ?_).symm
    refine unboundToken?_eq_none_iff.1 hfirst tok htok ?_
    rw [Bindings.get?_without, hunbound, ite_self]
  | some tok =>
    have hunbound := unboundToken?_eq_some_iff.1 hfirst
    by_cases hname : tok.name ∈ names
    · exact Or.inr ⟨tok, hunbound.mem, hname, rfl⟩
    · obtain ⟨ahead, behind, htokens, hahead, hunbound⟩ := hunbound
      rw [Bindings.get?_without, if_neg hname] at hunbound
      refine Or.inl (unboundToken?_eq_some_iff.2
        ⟨ahead, behind, htokens, fun u hu hnone => hahead u hu ?_, hunbound⟩).symm
      rw [Bindings.get?_without, hnone, ite_self]

/-- A text whose tokens are bound though names are left out is filled as before. -/
theorem fill_without {text : String} (h : unboundToken? (values.without names) text = none) :
    fill (values.without names) text = fill values text := by
  refine fill_congr fun tok htok => ?_
  have hbound := unboundToken?_eq_none_iff.1 h tok htok
  rw [Bindings.get?_without] at hbound ⊢
  split
  · rename_i hname
    exact absurd (if_pos hname) hbound
  · rfl

/-- Without some of the bindings a text is expanded as before, or fails at a token that names one of
them. -/
theorem expand_without (values : Bindings) (names : List String) (text : String) :
    expand (values.without names) text = expand values text ∨
      ∃ tok ∈ tokens text, tok.name ∈ names ∧
        expand (values.without names) text = .error (.unresolvedToken tok.text) := by
  rcases unboundToken?_without values names text with h | ⟨tok, htok, hname, h⟩
  · refine Or.inl ?_
    rw [expand, expand, h]
    cases hfirst : unboundToken? values text with
    | some tok => rfl
    | none => rw [fill_without (h.trans hfirst)]
  · refine Or.inr ⟨tok, htok, hname, ?_⟩
    rw [expand, h]
    rfl

/-- Empty texts count as none where they are left out. -/
theorem given?_get?_without (hempty : ∀ x ∈ absent, supplied.get? x = some "") (x : String) :
    given? ((supplied.without absent).get? x) = given? (supplied.get? x) := by
  rw [Bindings.get?_without]
  split
  · rename_i hx
    rw [hempty x hx]
    rfl
  · rfl

/-- **A variable gets the same text though names are left out**, unless its default mentions one of
them. -/
theorem textFor_without (hempty : ∀ x ∈ absent, supplied.get? x = some "") (resolved : Bindings)
    (names : List String) (v : Variable) :
    v.textFor (supplied.without absent) (resolved.without names) = v.textFor supplied resolved ∨
      ∃ tok, v.Mentions supplied tok ∧ tok.name ∈ names ∧
        v.textFor (supplied.without absent) (resolved.without names) =
          .error (.unresolvedToken tok.text) := by
  have hsame := given?_get?_without hempty v.name
  cases hgiven : given? (supplied.get? v.name) with
  | some text =>
    rw [Variable.textFor_of_given hgiven, Variable.textFor_of_given (hsame.trans hgiven)]
    exact Or.inl rfl
  | none =>
    cases hfallback : given? v.fallback with
    | none =>
      rw [Variable.textFor_of_nothing hgiven hfallback,
        Variable.textFor_of_nothing (hsame.trans hgiven) hfallback]
      exact Or.inl rfl
    | some text =>
      rw [Variable.textFor_of_fallback hgiven hfallback,
        Variable.textFor_of_fallback (hsame.trans hgiven) hfallback]
      rcases expand_without resolved names text with h | ⟨tok, htok, hname, h⟩
      · rw [h]
        exact Or.inl rfl
      · rw [h]
        exact Or.inr ⟨tok, ⟨hgiven, text, hfallback, htok⟩, hname, rfl⟩

/-- **Variables are resolved alike though names that they have are left out**, unless one of them
mentions such a name before it is declared. -/
theorem resolveAll_without (hempty : ∀ x ∈ absent, supplied.get? x = some "") (resolved : Bindings)
    {vs : List Variable} (hnames : ∀ x ∈ names, x ∈ vs.map Variable.name) :
    resolveAll (supplied.without absent) (resolved.without names) vs =
        resolveAll supplied resolved vs ∨
      ∃ tok, MentionsEarly supplied names vs tok ∧
        resolveAll (supplied.without absent) (resolved.without names) vs =
          .error (.unresolvedToken tok.text) := by
  induction vs generalizing resolved names with
  | nil =>
    obtain rfl : names = [] :=
      List.eq_nil_iff_forall_not_mem.2 fun x hx => List.not_mem_nil (hnames x hx)
    exact Or.inl (congrArg _ (Bindings.without_nil resolved))
  | cons v vs ih =>
    rw [resolveAll, resolveAll, Variable.resolve_eq, Variable.resolve_eq]
    rcases textFor_without hempty resolved names v with h | ⟨tok, hmentions, hname, h⟩
    · rw [h]
      cases htext : v.textFor supplied resolved with
      | error e => exact Or.inl rfl
      | ok text =>
        -- from here on the name of `v` is bound on both sides
        have hrest : ∀ x ∈ names.filter (· ≠ v.name), x ∈ vs.map Variable.name := fun x hx => by
          obtain ⟨hx, hne⟩ := List.mem_filter.1 hx
          exact (List.mem_cons.1 (hnames x hx)).resolve_left (by simpa using hne)
        simp only [Outcome.map_ok, Outcome.ok_bind, Bindings.insert_without]
        refine (ih _ hrest).imp_right ?_
        rintro ⟨tok, ⟨before, w, after, rfl, hmentions, hname, hearly⟩, herror⟩
        obtain ⟨hname, hne⟩ := List.mem_filter.1 hname
        refine ⟨tok, ⟨v :: before, w, after, rfl, hmentions, hname, ?_⟩, herror⟩
        rw [List.map_cons, List.mem_cons, not_or]
        exact ⟨by simpa using hne, hearly⟩
    · rw [h]
      exact Or.inr ⟨tok, ⟨[], v, vs, rfl, hmentions, hname, List.not_mem_nil⟩, rfl⟩

/-- A name that is supplied is never the one that is not bound. -/
theorem resolve_ne_unresolved {tok : Token} (htok : tok.IsWritten)
    (hsupplied : supplied.get? tok.name ≠ none) :
    t.resolve supplied ≠ .error (.unresolvedToken tok.text) := fun h => by
  obtain ⟨v, -, u, ⟨-, text, -, hu⟩, htext, hunbound⟩ := Variable.exists_of_resolveAll_unresolved h
  refine hsupplied ?_
  rw [← Token.eq_of_text_eq (Token.isWritten_of_mem_tokens hu) htok htext, hunbound]

end

/-- **An empty text supplied for a variable counts as none**, unless a default that is taken
mentions the variable before it is declared: without the empty texts it then mentions a name that is
not bound, and with them it does not. -/
theorem resolve_without_emptyNames (t : Template) (supplied : Bindings) :
    (t.resolve (supplied.without (t.emptyNames supplied)) = t.resolve supplied ∧
        t.render (supplied.without (t.emptyNames supplied)) = t.render supplied) ∨
      ∃ tok, MentionsEarly supplied (t.emptyNames supplied) t.declared tok ∧
        t.resolve (supplied.without (t.emptyNames supplied)) =
          .error (.unresolvedToken tok.text) ∧
        t.resolve supplied ≠ .error (.unresolvedToken tok.text) := by
  have hempty : ∀ x ∈ t.emptyNames supplied, supplied.get? x = some "" := fun x hx =>
    of_decide_eq_true (List.mem_filter.1 hx).2
  have hdeclared : ∀ x ∈ t.emptyNames supplied, x ∈ t.declared.map Variable.name := fun x hx =>
    (List.mem_filter.1 hx).1
  rcases resolveAll_without hempty supplied hdeclared with h | ⟨tok, hearly, h⟩
  · refine Or.inl ⟨h, ?_⟩
    rw [render, render, show t.resolve _ = t.resolve supplied from h]
  · have ⟨_, _, _, _, ⟨_, _, _, htok⟩, hname, _⟩ := hearly
    refine Or.inr ⟨tok, hearly, h, resolve_ne_unresolved (Token.isWritten_of_mem_tokens htok) ?_⟩
    rw [hempty _ hname]
    exact nofun

/-- A template with a default that mentions a variable declared behind it. -/
def greeted : Template where
  id := "greeted"
  name := "Greeted"
  category := .static
  skeleton := .null
  declared := [{ name := "title", fallback := some "Hello \x7b\x7bname\x7d\x7d" },
    { name := "name", fallback := some "you" }]

/-- **An empty text supplied may count**, in a default before the declaration of its name. -/
theorem resolve_greeted :
    greeted.resolve (.ofList [("name", "")]) =
        .ok (.ofList [("title", "Hello "), ("name", "you")]) ∧
      greeted.resolve ((Bindings.ofList [("name", "")]).without
          (greeted.emptyNames (.ofList [("name", "")]))) =
        .error (.unresolvedToken "\x7b\x7bname\x7d\x7d") := by
  decide +kernel

end Deployment.Template
