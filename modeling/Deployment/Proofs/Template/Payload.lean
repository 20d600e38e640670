import Deployment.Proofs.Template.Resolution
import Deployment.Proofs.Template.Unresolved

/-!
# Proofs/Template/Payload — what the errors of templates say

The violations of a template speak of its declarations, of the tokens in its own texts and of the
keys of its skeleton as they are written (`IsOwn`): texts supplied or filled in decide which of them
is reported, and never stand in it.  A variable fails for its declaration or its default
(`isOwn_of_textFor`), a filling for a key of the skeleton as it was (`keysStand`).
Only the name of a service that is there twice is reported as it is filled in.
-/

namespace Deployment.Template

/-- The texts of a template that tokens are looked for in: the defaults, and those of the
skeleton. -/
def ownTexts (t : Template) : List String :=
  t.declared.filterMap Variable.fallback ++ t.skeleton.texts

/-- **Whether a violation is told in the words of a template** alone. -/
inductive IsOwn (t : Template) : Violation → Prop
  | missing {v : Variable} : v ∈ t.declared → v.required = true → IsOwn t (.missingVariable v.name)
  | mistyped {v : Variable} : v ∈ t.declared → IsOwn t (.invalidType v.name v.type.name)
  | token {s : String} {tok : Token} : s ∈ t.ownTexts → tok.IsWritten → tok.chars <:+: s.toList →
    IsOwn t (.unresolvedToken tok.text)
  | key {k : Value} : k ∈ t.skeleton.keys → IsOwn t (.duplicateKey (keyText k))

variable {t : Template}

/-- A token of a text of the template is one of its own. -/
theorem IsOwn.of_mem_tokens {s : String} {tok : Token} (hs : s ∈ t.ownTexts)
    (htok : tok ∈ tokens s) : t.IsOwn (.unresolvedToken tok.text) := by
  obtain ⟨p, hp, hp'⟩ := List.mem_filterMap.1 htok
  cases p with
  | char c => cases hp'
  | token u =>
    obtain rfl : u = tok := Option.some.inj hp'
    exact .token hs (Token.isWritten_of_mem_tokens htok) (Token.isInfix_of_mem_pieces hp)

/-! ## Variables

A variable fails with its own name and type, or with a token of its default. -/

section

variable {supplied resolved : Bindings} {v : Variable} {w : Violation}

/-- A text that is not accepted is not told. -/
theorem isOwn_of_taken {text? : Option String} (hv : v ∈ t.declared)
    (h : v.taken text? = .error w) : t.IsOwn w := by
  cases text? with
  | none =>
    rw [Variable.taken] at h
    split at h
    · rename_i hrequired
      cases h
      exact .missing hv hrequired
    · cases h
  | some text =>
    rw [Variable.taken] at h
    split at h
    · cases h
    · cases h
      exact .mistyped hv

/-- **A variable fails for what its declaration says**: a default is looked through for tokens
before any text is filled in. -/
theorem isOwn_of_textFor (hv : v ∈ t.declared) (h : v.textFor supplied resolved = .error w) :
    t.IsOwn w := by
  cases hgiven : given? (supplied.get? v.name) with
  | some text => exact isOwn_of_taken hv (Variable.textFor_of_given hgiven ▸ h)
  | none =>
    cases hfallback : given? v.fallback with
    | none => exact isOwn_of_taken hv (Variable.textFor_of_nothing hgiven hfallback ▸ h)
    | some text =>
      rw [Variable.textFor_of_fallback hgiven hfallback] at h
      rcases Outcome.bind_eq_error.1 h with h | ⟨_, -, h⟩
      · obtain ⟨tok, hfirst, rfl⟩ := Variable.expand_eq_error_iff.1 h
        have htext : text ∈ t.ownTexts := List.mem_append_left _
          (List.mem_filterMap.2 ⟨v, hv, (given?_eq_some_iff.1 hfallback).1⟩)
        exact .of_mem_tokens htext (unboundToken?_eq_some_iff.1 hfirst).mem
      · exact isOwn_of_taken hv h

/-- No variable reports what the template does not hold. -/
theorem isOwn_of_resolveAll {vs : List Variable} (hvs : ∀ v ∈ vs, v ∈ t.declared)
    (h : Variable.resolveAll supplied resolved vs = .error w) : t.IsOwn w := by
  induction vs generalizing resolved with
  | nil => cases h
  | cons v vs ih =>
    rw [List.forall_mem_cons] at hvs
    rcases Outcome.bind_eq_error.1 h with h | ⟨next, -, h⟩
    · rw [Variable.resolve_eq, Outcome.map_eq_error] at h
      exact isOwn_of_textFor hvs.1 h
    · exact ih hvs.2 h

end

/-! ## Skeletons

A skeleton fails at a token or at a key, and both are texts that stand in it. -/

/-- Whether the keys that are looked at in filling a value are the keys that it has unfilled. -/
def KeysStand (values : Bindings) (v : Value) : Prop :=
  ∀ place : Place, (keysOf values place v).map KeySite.key = v.keys

theorem map_key_keysOfItems {values : Bindings} {place : Place} {items : List Value}
    (h : ∀ v ∈ items, KeysStand values v) :
    (keysOfItems values place items).map KeySite.key = items.flatMap Value.keys := by
  induction items with
  | nil => rfl
  | cons v vs ih =>
    rw [List.forall_mem_cons] at h
    rw [keysOfItems, List.map_append, h.1 place, ih h.2, List.flatMap_cons]

/-- Entries report what is within them, and each its own key last. -/
theorem map_key_keysOfEntries {values : Bindings} {place : Place} {earlier : List Value}
    {es : List (Value × Value)} (h : ∀ e ∈ es, KeysStand values e.1 ∧ KeysStand values e.2) :
    (keysOfEntries values place earlier es).map KeySite.key =
      es.flatMap fun e => e.1.keys ++ e.2.keys ++ [e.1] := by
  induction es generalizing earlier with
  | nil => rfl
  | cons e es ih =>
    obtain ⟨k, v⟩ := e
    rw [List.forall_mem_cons] at h
    rw [keysOfEntries, List.map_append, List.map_append, List.map_cons, h.1.1, h.1.2, ih h.2,
      List.flatMap_cons]
    simp only [List.append_assoc, List.singleton_append]

/-- **Filling looks at the keys of the skeleton**, in their order, whatever is filled in. -/
theorem keysStand (values : Bindings) (v : Value) : KeysStand values v := by
  induction v using Value.induct with
  | null => exact fun _ => rfl
  | bool b => exact fun _ => rfl
  | number n => exact fun _ => rfl
  | string s => exact fun _ => rfl
  | sequence items ih =>
    intro place
    rw [keysOf, map_key_keysOfItems ih, Value.keys_sequence]
  | mapping es ih =>
    intro place
    rw [keysOf, map_key_keysOfEntries ih, Value.keys_mapping]
  | tagged tag v ih =>
    intro place
    rw [keysOf, ih place, Value.keys]

/-- Filling a skeleton fails for one of its keys. -/
theorem isOwn_of_fillValue {values : Bindings} {w : Violation}
    (h : fillValue values .root t.skeleton = .error w) :
    (∃ name, w = .duplicateService name) ∨ t.IsOwn w := by
  obtain ⟨ahead, c, behind, hchecks, -, -, rfl⟩ := (reports values t.skeleton []).eq_error_iff.1 h
  have hc : c ∈ (keysOf values [] t.skeleton).map KeySite.check :=
    hchecks ▸ List.mem_append_right _ List.mem_cons_self
  obtain ⟨site, hsite, rfl⟩ := List.mem_map.1 hc
  have hkey : site.key ∈ t.skeleton.keys :=
    keysStand values t.skeleton [] ▸ List.mem_map_of_mem hsite
  change (∃ name, site.violation = _) ∨ t.IsOwn site.violation
  rw [KeySite.violation]
  split
  · exact .inl ⟨_, rfl⟩
  · exact .inr (.key hkey)

/-- Apart from services of one name, a skeleton fails with what it holds. -/
theorem isOwn_of_fillSkeleton {values : Bindings} {w : Violation}
    (h : fillSkeleton t.skeleton values = .error (.violation w)) :
    (∃ name, w = .duplicateService name) ∨ t.IsOwn w := by
  rw [fillSkeleton] at h
  cases hunbound : unboundIn? values t.skeleton with
  | some tok =>
    rw [hunbound] at h
    obtain rfl := CompileError.violation.inj (Except.error.inj h)
    rw [unboundIn?_eq_find?] at hunbound
    obtain ⟨s, hs, htok⟩ := List.mem_flatMap.1 (List.mem_of_find?_eq_some hunbound)
    exact .inr (.of_mem_tokens (List.mem_append_right _ hs) htok)
  | none =>
    rw [hunbound] at h
    rcases Outcome.bind_eq_error.1 h with h | ⟨_, -, h⟩
    · exact isOwn_of_fillValue (CompileError.ofViolation_eq_error_iff.1 h)
    · exact .inl (Document.exists_of_ofValue_violation h)

/-! ## Templates -/

/-- **A template fails in its own words.**  What is supplied for its variables, and what they
resolve to, is in no violation of resolving or rendering it but in the name of a service that is
there twice. -/
theorem isOwn_of_violation (t : Template) (supplied : Bindings) :
    (∀ w, t.resolve supplied = .error w → t.IsOwn w) ∧
      ∀ w, t.render supplied = .error (.violation w) →
        (∃ name, w = .duplicateService name) ∨ t.IsOwn w := by
  have hresolve : ∀ w, t.resolve supplied = .error w → t.IsOwn w :=
    fun w h => isOwn_of_resolveAll (fun _ hv => hv) h
  refine ⟨hresolve, fun w h => ?_⟩
  rcases Outcome.bind_eq_error.1 h with h | ⟨values, -, h⟩
  · exact .inr (hresolve w (CompileError.ofViolation_eq_error_iff.1 h))
  · exact isOwn_of_fillSkeleton h

/-- A template whose second variable, and one of whose keys, is a credential. -/
def locker : Template where
  id := "locker"
  name := "Locker"
  category := .static
  skeleton := .mapping [(.string "left", .null), (.string "\x7b\x7bpin\x7d\x7d", .null)]
  declared := [{ name := "pin", type := .password, required := true },
    { name := "shelf", type := .number, fallback := some "\x7b\x7bpin\x7d\x7d" }]

/-- The secret that is supplied is in neither error. -/
theorem locker_fails :
    (locker.resolve (.ofList [("pin", "s3cret")]) = .error (.invalidType "shelf" "number") ∧
        locker.IsOwn (.invalidType "shelf" "number")) ∧
      locker.render (.ofList [("pin", "left"), ("shelf", "2")]) =
          .error (.violation (.duplicateKey "\x7b\x7bpin\x7d\x7d")) ∧
        locker.IsOwn (.duplicateKey "\x7b\x7bpin\x7d\x7d") := by
  have hmistyped : locker.resolve (.ofList [("pin", "s3cret")]) =
      .error (.invalidType "shelf" "number") := by decide +kernel
  have hrender : locker.render (.ofList [("pin", "left"), ("shelf", "2")]) =
      .error (.violation (.duplicateKey "\x7b\x7bpin\x7d\x7d")) := by
    have hresolve : locker.resolve (.ofList [("pin", "left"), ("shelf", "2")]) =
        .ok (.ofList [("pin", "left"), ("shelf", "2")]) := by decide +kernel
    have hunbound : unboundIn? (.ofList [("pin", "left"), ("shelf", "2")]) locker.skeleton =
        none := by decide +kernel
    have hfill : fillValue (.ofList [("pin", "left"), ("shelf", "2")]) .root locker.skeleton =
        .error (.duplicateKey "\x7b\x7bpin\x7d\x7d") :=
      (reports _ _ []).eq_error_iff.2 (Check.first?_eq_some_iff.1 (by decide +kernel))
    rw [render_eq_fillSkeleton hresolve, fillSkeleton, hunbound, hfill]
    rfl
  refine ⟨⟨hmistyped, (isOwn_of_violation locker _).1 _ hmistyped⟩, hrender, ?_⟩
  refine ((isOwn_of_violation locker _).2 _ hrender).resolve_left ?_
  rintro ⟨name, h⟩
  cases h

end Deployment.Template
