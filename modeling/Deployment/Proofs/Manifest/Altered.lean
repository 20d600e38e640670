import Deployment.Proofs.Manifest.Kept

/-!
# Proofs/Manifest/Altered — manifests whose mappings have other entries

Two manifests are compared level by level: at each, the values are the same, or mappings with
related entries (`Value.Altered`).  The entries beside the services are the same, the services
have the same keys, and the entries of their bodies are related in a given way (`AlteredPart`).
-/

namespace Deployment

/-- **Whether two values are mappings with related entries**, under the same tags, unless they are
the same. -/
inductive Value.Altered (R : List (Value × Value) → List (Value × Value) → Prop) :
    Value → Value → Prop
  | refl (v : Value) : Altered R v v
  | mapping {es fs : List (Value × Value)} : R es fs → Altered R (.mapping es) (.mapping fs)
  | tagged {tag : String} {v w : Value} : Altered R v w →
    Altered R (.tagged tag v) (.tagged tag w)

variable {R : List (Value × Value) → List (Value × Value) → Prop}

namespace Value.Altered

theorem symm {v w : Value} (h : v.Altered R w) (hR : ∀ es fs, R es fs → R fs es) :
    w.Altered R v := by
  induction h with
  | refl v => exact .refl v
  | mapping hes => exact .mapping (hR _ _ hes)
  | tagged _ ih => exact .tagged ih

/-- A tag in front is the same on both sides, so it can be removed. -/
theorem untagged {v w : Value} (h : v.Altered R w) (hR : ∀ es, R es es)
    {es : List (Value × Value)} (hes : v.untagged = .mapping es) :
    ∃ fs, w.untagged = .mapping fs ∧ R es fs := by
  induction h with
  | refl v => exact ⟨es, hes, hR es⟩
  | @mapping es' fs hrelated =>
    obtain rfl := Value.mapping.inj hes
    exact ⟨fs, rfl, hrelated⟩
  | tagged _ ih => exact ih hes

/-- What a mapping is altered to is a mapping. -/
theorem exists_eq_mapping {es : List (Value × Value)} {w : Value}
    (h : (Value.mapping es).Altered R w) (hR : ∀ es, R es es) :
    ∃ fs, w = .mapping fs ∧ R es fs := by
  cases h with
  | refl => exact ⟨es, rfl, hR es⟩
  | @mapping _ fs hrelated => exact ⟨fs, rfl, hrelated⟩

end Value.Altered

namespace Manifest

/-! ## Services

The relation goes down to the bodies of services: the services have the same keys in the same order,
and their bodies are altered. -/

variable (R) in
/-- Whether services stand under the same keys, with related entries in their bodies. -/
def AlteredServices : List (Value × Value) → List (Value × Value) → Prop :=
  List.Forall₂ fun e f => e.1 = f.1 ∧ e.2.Altered R f.2

variable (R) in
/-- **Whether two entries of manifests are the same**, but for the bodies of services. -/
inductive AlteredPart : Value × Value → Value × Value → Prop
  | refl (e : Value × Value) : AlteredPart e e
  | services {v w : Value} : v.Altered (AlteredServices R) w →
    AlteredPart (.string "services", v) (.string "services", w)

theorem AlteredServices.refl (services : List (Value × Value)) :
    AlteredServices R services services :=
  List.forall₂_same.2 fun e _ => ⟨rfl, .refl e.2⟩

theorem AlteredServices.symm {services others : List (Value × Value)}
    (h : AlteredServices R services others) (hR : ∀ es fs, R es fs → R fs es) :
    AlteredServices R others services :=
  h.flip.imp fun _ _ hef => ⟨hef.1.symm, hef.2.symm hR⟩

theorem AlteredPart.symm {e f : Value × Value} (h : AlteredPart R e f)
    (hR : ∀ es fs, R es fs → R fs es) : AlteredPart R f e := by
  cases h with
  | refl => exact .refl e
  | services hservices => exact .services (hservices.symm fun _ _ hes => hes.symm hR)

/-- The keys of a manifest stay as they are. -/
theorem AlteredPart.key {e f : Value × Value} (h : AlteredPart R e f) : e.1 = f.1 := by
  cases h <;> rfl

/-- A part is the same, or holds services. -/
theorem AlteredPart.eq_or {e f : Value × Value} (h : AlteredPart R e f) :
    e = f ∨ e.1 = .string "services" ∧ f.1 = .string "services" := by
  cases h with
  | refl => exact .inl rfl
  | services _ => exact .inr ⟨rfl, rfl⟩

/-! ## Bodies -/

/-- A body that is altered is a body, with altered entries. -/
theorem hasEntries_of_altered {body other : Value} (h : body.Altered R other)
    (hR : ∀ es, R es es) {es : List (Value × Value)} (hes : HasEntries body es) :
    ∃ fs, HasEntries other fs ∧ R es fs := by
  cases hes with
  | mapping =>
    obtain ⟨fs, rfl, hrelated⟩ := h.exists_eq_mapping hR
    exact ⟨fs, .mapping fs, hrelated⟩
  | null =>
    cases h with
    | refl => exact ⟨[], .null, hR []⟩

theorem entriesOf_of_altered {body other : Value} (h : body.Altered R other)
    (hR : ∀ es, R es es) : R (entriesOf body) (entriesOf other) := by
  cases h with
  | refl => exact hR _
  | mapping hes => exact hes
  | tagged _ => exact hR []

end Manifest

end Deployment
