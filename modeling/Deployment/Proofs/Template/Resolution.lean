import Deployment.Proofs.Outcome
import Deployment.Proofs.Template.Token
import Deployment.Template.Resolution

/-!
# Proofs/Template/Resolution — which texts variables get

Resolving a variable binds its name and no other (`Variable.resolve_eq`), to the text supplied if
this is not empty, or else to its default with the tokens replaced, or to no text at all
(`Variable.Gets`).  Variables are resolved one after the other (`Variable.resolveAll_append`), so
what a name is bound to at the end is what its last declaration gets
(`Variable.exists_gets_of_resolveAll`), and the names that are given texts keep them
(`Template.get?_resolve_of_supplied`).  A token that is reported stands in a default that is taken
(`Variable.exists_of_resolveAll_unresolved`).
-/

namespace Deployment

namespace Template

theorem given?_eq_some_iff {text? : Option String} {text : String} :
    given? text? = some text ↔ text? = some text ∧ text ≠ "" := by
  rw [given?, Option.filter_eq_some_iff, Bool.not_eq_true', ← Bool.not_eq_true,
    String.isEmpty_iff]

/-- The names that a template declares. -/
def names (t : Template) : List String := t.declared.map Variable.name

namespace Variable

/-! ## One variable

A text is supplied, or the default is expanded, or there is nothing. Each of the three is then
checked against the type of the variable. -/

/-- The text that a variable takes: the one found for it, which its type must accept, or an empty
one if it is optional. -/
def taken (v : Variable) : Option String → Except Violation String
  | some text =>
    if v.type.accepts text then return text else throw (.invalidType v.name v.type.name)
  | none => if v.required then throw (.missingVariable v.name) else return ""

/-- The text that a variable gets after others. -/
def textFor (supplied resolved : Bindings) (v : Variable) : Except Violation String :=
  v.text? supplied resolved >>= v.taken

/-- **How a variable gets a text** after others. -/
inductive Gets (supplied resolved : Bindings) (v : Variable) : String → Prop
  | given {text : String} : given? (supplied.get? v.name) = some text →
    v.type.accepts text = true → Gets supplied resolved v text
  | fallback {text : String} : given? (supplied.get? v.name) = none →
    given? v.fallback = some text → unboundToken? resolved text = none →
    v.type.accepts (fill resolved text) = true → Gets supplied resolved v (fill resolved text)
  | nothing : given? (supplied.get? v.name) = none → given? v.fallback = none →
    v.required = false → Gets supplied resolved v ""

variable {supplied resolved r : Bindings} {v : Variable}

/-- **Resolving a variable binds its name and no other.** -/
theorem resolve_eq (supplied resolved : Bindings) (v : Variable) :
    v.resolve supplied resolved = resolved.insert v.name <$> v.textFor supplied resolved := by
  rw [resolve, textFor]
  cases v.text? supplied resolved with
  | error e => rfl
  | ok text? =>
    cases text? with
    | none =>
      change (if v.required then throw _ else pure _) = resolved.insert v.name <$> v.taken none
      rw [taken]
      split <;> rfl
    | some text =>
      change (if v.type.accepts text then pure _ else throw _) =
        resolved.insert v.name <$> v.taken (some text)
      rw [taken]
      split <;> rfl

/-- A text is expanded when all of its tokens are bound. -/
theorem expand_eq_ok_iff {text s : String} :
    expand resolved text = .ok s ↔ unboundToken? resolved text = none ∧ fill resolved text = s := by
  rw [expand]
  cases unboundToken? resolved text with
  | some t => exact ⟨nofun, nofun⟩
  | none => exact Outcome.pure_eq_ok.trans (and_iff_right rfl).symm

/-- Otherwise its first token that is not bound is reported. -/
theorem expand_eq_error_iff {text : String} {e : Violation} :
    expand resolved text = .error e ↔
      ∃ tok, unboundToken? resolved text = some tok ∧ .unresolvedToken tok.text = e := by
  rw [expand]
  cases unboundToken? resolved text with
  | some tok =>
    exact ⟨fun h => ⟨tok, rfl, Except.error.inj h⟩,
      fun ⟨_, h, he⟩ => by cases h; exact congrArg _ he⟩
  | none => exact ⟨nofun, nofun⟩

/-- A text is taken as it is when the type accepts it. -/
theorem taken_some_eq_ok_iff {text s : String} :
    v.taken (some text) = .ok s ↔ v.type.accepts text = true ∧ text = s := by
  rw [taken]
  split
  · rename_i h
    exact Outcome.pure_eq_ok.trans (and_iff_right h).symm
  · rename_i h
    exact ⟨nofun, fun hs => absurd hs.1 h⟩

/-- Nothing is taken as the empty text, where nothing is required. -/
theorem taken_none_eq_ok_iff {s : String} :
    v.taken none = .ok s ↔ v.required = false ∧ "" = s := by
  rw [taken, Outcome.guard_eq_ok, Outcome.pure_eq_ok, Bool.not_eq_true]

/-- What is supplied is not expanded. -/
theorem textFor_of_given {text : String} (h : given? (supplied.get? v.name) = some text) :
    v.textFor supplied resolved = v.taken (some text) := by
  rw [textFor, text?, h]
  rfl

/-- A default is expanded before it is checked. -/
theorem textFor_of_fallback {text : String} (hgiven : given? (supplied.get? v.name) = none)
    (h : given? v.fallback = some text) :
    v.textFor supplied resolved = expand resolved text >>= fun s => v.taken (some s) := by
  rw [textFor, text?, hgiven, h]
  exact bind_map_left _ _ _

/-- Without a default there is nothing to take. -/
theorem textFor_of_nothing (hgiven : given? (supplied.get? v.name) = none)
    (h : given? v.fallback = none) : v.textFor supplied resolved = v.taken none := by
  rw [textFor, text?, hgiven, h]
  rfl

/-- **A variable gets a text** in one of three ways. -/
theorem textFor_eq_ok_iff {text : String} :
    v.textFor supplied resolved = .ok text ↔ v.Gets supplied resolved text := by
  constructor
  · intro h
    cases hgiven : given? (supplied.get? v.name) with
    | some s =>
      rw [textFor_of_given hgiven] at h
      obtain ⟨haccepts, rfl⟩ := taken_some_eq_ok_iff.1 h
      exact .given hgiven haccepts
    | none =>
      cases hfallback : given? v.fallback with
      | some s =>
        rw [textFor_of_fallback hgiven hfallback] at h
        obtain ⟨_, hexpand, h⟩ := Outcome.bind_eq_ok.1 h
        obtain ⟨hbound, rfl⟩ := expand_eq_ok_iff.1 hexpand
        obtain ⟨haccepts, rfl⟩ := taken_some_eq_ok_iff.1 h
        exact .fallback hgiven hfallback hbound haccepts
      | none =>
        rw [textFor_of_nothing hgiven hfallback] at h
        obtain ⟨hoptional, rfl⟩ := taken_none_eq_ok_iff.1 h
        exact .nothing hgiven hfallback hoptional
  · intro h
    cases h with
    | given hgiven haccepts =>
      rw [textFor_of_given hgiven]
      exact taken_some_eq_ok_iff.2 ⟨haccepts, rfl⟩
    | fallback hgiven hfallback hbound haccepts =>
      rw [textFor_of_fallback hgiven hfallback]
      exact Outcome.bind_eq_ok.2 ⟨_, expand_eq_ok_iff.2 ⟨hbound, rfl⟩,
        taken_some_eq_ok_iff.2 ⟨haccepts, rfl⟩⟩
    | nothing hgiven hfallback hoptional =>
      rw [textFor_of_nothing hgiven hfallback]
      exact taken_none_eq_ok_iff.2 ⟨hoptional, rfl⟩

/-- **A variable is resolved when it gets a text**, which its name is then bound to. -/
theorem resolve_eq_ok_iff :
    v.resolve supplied resolved = .ok r ↔
      ∃ text, v.Gets supplied resolved text ∧ resolved.insert v.name text = r := by
  simp only [resolve_eq, Outcome.map_eq_ok, textFor_eq_ok_iff]

/-- A text that is supplied is what the variable gets. -/
theorem Gets.eq_of_given {text given : String} (h : v.Gets supplied resolved text)
    (hgiven : given? (supplied.get? v.name) = some given) : text = given := by
  cases h with
  | given h => exact Option.some.inj (h.symm.trans hgiven)
  | fallback h => exact nomatch h.symm.trans hgiven
  | nothing h => exact nomatch h.symm.trans hgiven

/-! ## Variables one after the other

Later variables see what earlier ones got. A variable that is declared twice is bound twice, and the
last binding counts. -/

/-- **Variables that follow others** are resolved with what these are bound to. -/
theorem resolveAll_append (supplied resolved : Bindings) (vs ws : List Variable) :
    resolveAll supplied resolved (vs ++ ws) =
      resolveAll supplied resolved vs >>= fun next => resolveAll supplied next ws := by
  induction vs generalizing resolved with
  | nil => rfl
  | cons v vs ih =>
    rw [List.cons_append, resolveAll, resolveAll, bind_assoc]
    simp only [ih]

/-- A name that no variable has stays bound as it was. -/
theorem get?_resolveAll_of_not_mem {vs : List Variable}
    (h : resolveAll supplied resolved vs = .ok r) {x : String} (hx : x ∉ vs.map Variable.name) :
    r.get? x = resolved.get? x := by
  induction vs generalizing resolved with
  | nil => rw [Outcome.pure_eq_ok.1 h]
  | cons v vs ih =>
    rw [List.map_cons, List.mem_cons, not_or] at hx
    obtain ⟨next, hnext, h⟩ := Outcome.bind_eq_ok.1 h
    obtain ⟨text, -, rfl⟩ := resolve_eq_ok_iff.1 hnext
    rw [ih h hx.2, Bindings.get?_insert, if_neg hx.1]

/-- **The names bound at the end** are those bound at first and those of the variables. -/
theorem get?_resolveAll_ne_none_iff {vs : List Variable}
    (h : resolveAll supplied resolved vs = .ok r) (x : String) :
    r.get? x ≠ none ↔ resolved.get? x ≠ none ∨ x ∈ vs.map Variable.name := by
  induction vs generalizing resolved with
  | nil => rw [Outcome.pure_eq_ok.1 h, List.map_nil, or_iff_left List.not_mem_nil]
  | cons v vs ih =>
    obtain ⟨next, hnext, h⟩ := Outcome.bind_eq_ok.1 h
    obtain ⟨text, -, rfl⟩ := resolve_eq_ok_iff.1 hnext
    rw [ih h, Bindings.get?_insert, List.map_cons, List.mem_cons]
    by_cases hx : x = v.name
    · simp [hx]
    · simp [hx]

/-- **Where variables are resolved, each of them gets a text**, and its name stays bound to it
unless it is declared again. -/
theorem exists_gets_of_resolveAll {before after : List Variable}
    (h : resolveAll supplied resolved (before ++ v :: after) = .ok r) :
    ∃ earlier text, resolveAll supplied resolved before = .ok earlier ∧
      v.Gets supplied earlier text ∧
      (v.name ∉ after.map Variable.name → r.get? v.name = some text) := by
  rw [resolveAll_append] at h
  obtain ⟨earlier, hearlier, h⟩ := Outcome.bind_eq_ok.1 h
  obtain ⟨next, hnext, h⟩ := Outcome.bind_eq_ok.1 h
  obtain ⟨text, hgets, rfl⟩ := resolve_eq_ok_iff.1 hnext
  refine ⟨earlier, text, hearlier, hgets, fun hlast => ?_⟩
  rw [get?_resolveAll_of_not_mem h hlast, Bindings.get?_insert, if_pos rfl]

/-- A name that is declared has a last declaration. -/
theorem exists_last {vs : List Variable} {x : String} (hx : x ∈ vs.map Variable.name) :
    ∃ before v after, vs = before ++ v :: after ∧ v.name = x ∧ x ∉ after.map Variable.name := by
  induction vs with
  | nil => exact absurd hx List.not_mem_nil
  | cons v vs ih =>
    by_cases hlater : x ∈ vs.map Variable.name
    · obtain ⟨before, w, after, rfl, hw, hlast⟩ := ih hlater
      exact ⟨v :: before, w, after, rfl, hw, hlast⟩
    · have hv : x = v.name := (List.mem_cons.1 hx).resolve_right hlater
      exact ⟨[], v, vs, rfl, hv.symm, hlater⟩

/-! ## Tokens that are not bound

Only the expansion of a default reports a token, so a token that is reported stands in a default
that was used. -/

/-- Whether a variable takes its default, and a token stands in it. -/
def Mentions (supplied : Bindings) (v : Variable) (tok : Token) : Prop :=
  given? (supplied.get? v.name) = none ∧ ∃ text, given? v.fallback = some text ∧ tok ∈ tokens text

theorem taken_ne_unresolved (v : Variable) (text? : Option String) (s : String) :
    v.taken text? ≠ .error (.unresolvedToken s) := by
  cases text? with
  | none =>
    rw [taken]
    split <;> exact nofun
  | some text =>
    rw [taken]
    split <;> exact nofun

/-- A variable that fails with a token has it in its default, and its name is not bound. -/
theorem exists_of_textFor_unresolved {s : String}
    (h : v.textFor supplied resolved = .error (.unresolvedToken s)) :
    ∃ tok, v.Mentions supplied tok ∧ tok.text = s ∧ resolved.get? tok.name = none := by
  cases hgiven : given? (supplied.get? v.name) with
  | some text =>
    rw [textFor_of_given hgiven] at h
    exact absurd h (taken_ne_unresolved v _ s)
  | none =>
    cases hfallback : given? v.fallback with
    | none =>
      rw [textFor_of_nothing hgiven hfallback] at h
      exact absurd h (taken_ne_unresolved v _ s)
    | some text =>
      rw [textFor_of_fallback hgiven hfallback] at h
      rcases Outcome.bind_eq_error.1 h with h | ⟨_, -, h⟩
      · obtain ⟨tok, hfirst, htext⟩ := expand_eq_error_iff.1 h
        have hunbound := unboundToken?_eq_some_iff.1 hfirst
        exact ⟨tok, ⟨hgiven, text, hfallback, hunbound.mem⟩, Violation.unresolvedToken.inj htext,
          hunbound.eq_none⟩
      · exact absurd h (taken_ne_unresolved v _ s)

/-- **A token that is not bound** stands in the default of a variable, and its name is not bound at
first. -/
theorem exists_of_resolveAll_unresolved {vs : List Variable} {s : String}
    (h : resolveAll supplied resolved vs = .error (.unresolvedToken s)) :
    ∃ v ∈ vs, ∃ tok, v.Mentions supplied tok ∧ tok.text = s ∧ resolved.get? tok.name = none := by
  induction vs generalizing resolved with
  | nil => exact nomatch h
  | cons v vs ih =>
    rcases Outcome.bind_eq_error.1 h with h | ⟨next, hnext, h⟩
    · rw [resolve_eq, Outcome.map_eq_error] at h
      exact ⟨v, List.mem_cons_self, exists_of_textFor_unresolved h⟩
    · obtain ⟨text, -, rfl⟩ := resolve_eq_ok_iff.1 hnext
      obtain ⟨w, hw, tok, hmentions, htext, hunbound⟩ := ih h
      rw [Bindings.get?_insert] at hunbound
      split at hunbound
      · exact nomatch hunbound
      · exact ⟨w, List.mem_cons_of_mem v hw, tok, hmentions, htext, hunbound⟩

end Variable

/-- **A name for which a text is supplied keeps it**, whether the template declares it or not. -/
theorem get?_resolve_of_supplied {t : Template} {supplied r : Bindings}
    (h : t.resolve supplied = .ok r) {name text : String} (hne : text ≠ "")
    (hsupplied : supplied.get? name = some text) : r.get? name = some text := by
  by_cases hname : name ∈ t.names
  · obtain ⟨before, v, after, hsplit, rfl, hlast⟩ := Variable.exists_last hname
    rw [resolve, hsplit] at h
    obtain ⟨earlier, found, -, hgets, hr⟩ := Variable.exists_gets_of_resolveAll h
    rw [hr hlast, hgets.eq_of_given (given?_eq_some_iff.2 ⟨hsupplied, hne⟩)]
  · rw [Variable.get?_resolveAll_of_not_mem h hname, hsupplied]

end Template

end Deployment
