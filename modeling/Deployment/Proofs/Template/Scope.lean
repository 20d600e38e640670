import Deployment.Proofs.Template.Resolution

/-!
# Proofs/Template/Scope — what the variables of a template are bound to

When a template is resolved, exactly the names that are supplied or declared are bound, what is
supplied stays, and the last declaration of a name has a say in its text (`Template.IsResolved`).
Variables only see those declared before them: more of them, declared at the end, change neither an
error nor what other names are bound to (`Template.resolve_scoped`).
-/

namespace Deployment.Template

/-- **What a template and the texts supplied say about the texts that names are bound to.** -/
structure IsResolved (t : Template) (supplied r : Bindings) : Prop where
  /-- The names bound are those supplied and those declared. -/
  bound : ∀ x, r.get? x ≠ none ↔ supplied.get? x ≠ none ∨ x ∈ t.names
  /-- A text that is supplied is kept as it is, declared or not. -/
  kept : ∀ x text, supplied.get? x = some text → text ≠ "" → r.get? x = some text
  /-- The last declaration of a name accepts its text, or left it empty for want of another. -/
  typed : ∀ before v after, t.declared = before ++ v :: after → v.name ∉ after.map Variable.name →
    ∃ text, r.get? v.name = some text ∧ (v.type.accepts text = true ∨
      text = "" ∧ v.required = false ∧ given? (supplied.get? v.name) = none ∧
        given? v.fallback = none)

/-- A template that declares more variables, after its own. -/
def declaring (t : Template) (more : List Variable) : Template :=
  { t with declared := t.declared ++ more }

variable {t : Template} {supplied r : Bindings}

/-- What a variable gets is accepted by its type unless it is optional and there is nothing to
get. -/
theorem Variable.Gets.accepted {v : Variable} {earlier : Bindings} {text : String}
    (h : v.Gets supplied earlier text) :
    v.type.accepts text = true ∨ text = "" ∧ v.required = false ∧
      given? (supplied.get? v.name) = none ∧ given? v.fallback = none := by
  cases h with
  | given _ haccepts => exact Or.inl haccepts
  | fallback _ _ _ haccepts => exact Or.inl haccepts
  | nothing hgiven hfallback hoptional => exact Or.inr ⟨rfl, hoptional, hgiven, hfallback⟩

/-- **What a template resolves to is a resolution**, each of whose clauses is a fact about all of
its variables. -/
theorem isResolved_of_resolve (h : t.resolve supplied = .ok r) : t.IsResolved supplied r where
  bound := Variable.get?_resolveAll_ne_none_iff h
  kept := fun _ _ hsupplied hne => get?_resolve_of_supplied h hne hsupplied
  typed := fun before v after hsplit hlast => by
    rw [resolve, hsplit] at h
    obtain ⟨earlier, text, -, hgets, hr⟩ := Variable.exists_gets_of_resolveAll h
    exact ⟨text, hr hlast, hgets.accepted⟩

/-- Variables declared at the end are resolved after the others. -/
theorem resolve_declaring (t : Template) (more : List Variable) (supplied : Bindings) :
    (t.declaring more).resolve supplied =
      t.resolve supplied >>= fun r => Variable.resolveAll supplied r more :=
  Variable.resolveAll_append supplied supplied t.declared more

/-- **Names are bound as the template and the texts supplied say, and in the order of the
declarations**: variables declared at the end leave an error as it is, and they fail themselves or
leave all names but their own bound as before. -/
theorem resolve_scoped (t : Template) (supplied : Bindings) :
    (∀ r, t.resolve supplied = .ok r → t.IsResolved supplied r) ∧
      ∀ more,
        (∀ e, t.resolve supplied = .error e → (t.declaring more).resolve supplied = .error e) ∧
        ∀ r, t.resolve supplied = .ok r →
          (∃ e, (t.declaring more).resolve supplied = .error e) ∨
            ∃ r', (t.declaring more).resolve supplied = .ok r' ∧
              ∀ x, x ∉ more.map Variable.name → r'.get? x = r.get? x := by
  refine ⟨fun r => isResolved_of_resolve, fun more => ⟨fun e he => ?_, fun r hr => ?_⟩⟩
  · rw [resolve_declaring, he]
    rfl
  · rw [resolve_declaring, hr, Outcome.ok_bind]
    cases hmore : Variable.resolveAll supplied r more with
    | error e => exact Or.inl ⟨e, rfl⟩
    | ok r' => exact Or.inr ⟨r', rfl, fun x => Variable.get?_resolveAll_of_not_mem hmore⟩

/-- A template with a default that mentions a text supplied, one of a type, and no default. -/
def letter : Template where
  id := "letter"
  name := "Letter"
  category := .static
  skeleton := .null
  declared := [{ name := "title", fallback := some "To \x7b\x7bname\x7d\x7d" },
    { name := "copies", type := .number, fallback := some "2", required := true },
    { name := "note" }]

/-- A variable that mentions one of it. -/
def Variable.footer : Variable where
  name := "footer"
  fallback := some "\x7b\x7btitle\x7d\x7d, p. 1"

/-- A token within a supplied text is left as it is, and a variable declared behind changes nothing
before it. -/
theorem resolve_letter :
    let supplied := Bindings.ofList [("name", "\x7b\x7bnobody\x7d\x7d")]
    ∃ r r', letter.resolve supplied = .ok r ∧ letter.IsResolved supplied r ∧
      (letter.declaring [.footer]).resolve supplied = .ok r' ∧
      ∀ x, x ≠ "footer" → r'.get? x = r.get? x := by
  intro supplied
  obtain ⟨hresolved, hscoped⟩ := resolve_scoped letter supplied
  obtain ⟨r, hr⟩ := Outcome.exists_of_isOk (x := letter.resolve supplied) (by decide +kernel)
  obtain ⟨r', hr'⟩ := Outcome.exists_of_isOk (x := (letter.declaring [.footer]).resolve supplied)
    (by decide +kernel)
  refine ⟨r, r', hr, hresolved r hr, hr', fun x hx => ?_⟩
  rcases (hscoped [.footer]).2 r hr with ⟨e, he⟩ | ⟨next, hnext, hkept⟩
  · exact nomatch he.symm.trans hr'
  · obtain rfl := Except.ok.inj (hnext.symm.trans hr')
    exact hkept x (by simpa [Variable.footer] using hx)

end Deployment.Template
