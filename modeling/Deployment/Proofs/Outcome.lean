import Mathlib.Data.List.Forall2

/-!
# Proofs/Outcome — results of steps that may fail

A chain of steps succeeds when every step does (`bind_eq_ok`), a guard when its condition does not
hold (`guard_eq_ok`), and a check of all elements when it succeeds for each (`forM_eq_ok`).  Two
runs agree when each step of one agrees with that of the other (`Agree.bind`).
-/

namespace Deployment.Outcome

variable {ε α β : Type}

/-- What never fails returns its value. -/
@[simp] theorem pure_eq_ok {a b : α} : (pure a : Except ε α) = .ok b ↔ a = b :=
  ⟨Except.ok.inj, congrArg _⟩

@[simp] theorem throw_bind {e : ε} {f : α → Except ε β} :
    (throw e >>= f : Except ε β) = throw e := rfl

@[simp] theorem ok_bind {a : α} {f : α → Except ε β} : (.ok a >>= f : Except ε β) = f a := rfl

@[simp] theorem map_ok {a : α} {f : α → β} : (f <$> .ok a : Except ε β) = .ok (f a) := rfl

/-- **A chain succeeds when its two steps do.** -/
theorem bind_eq_ok {x : Except ε α} {f : α → Except ε β} {b : β} :
    x >>= f = .ok b ↔ ∃ a, x = .ok a ∧ f a = .ok b := by
  cases x with
  | error e => exact ⟨nofun, fun ⟨_, h, _⟩ => nomatch h⟩
  | ok a => exact ⟨fun h => ⟨a, rfl, h⟩, fun ⟨_, ha, h⟩ => by cases ha; exact h⟩

/-- A check and what follows it succeed when both do. -/
theorem check_bind_eq_ok {x : Except ε Unit} {f : Unit → Except ε β} {b : β} :
    x >>= f = .ok b ↔ x = .ok () ∧ f () = .ok b :=
  bind_eq_ok.trans ⟨fun ⟨(), h⟩ => h, fun h => ⟨(), h⟩⟩

theorem map_eq_ok {x : Except ε α} {f : α → β} {b : β} :
    f <$> x = .ok b ↔ ∃ a, x = .ok a ∧ f a = b := by
  cases x with
  | error e => exact ⟨nofun, fun ⟨_, h, _⟩ => nomatch h⟩
  | ok a => exact ⟨fun h => ⟨a, rfl, Except.ok.inj h⟩, fun ⟨_, ha, h⟩ => by cases ha; subst h; rfl⟩

/-- **A chain fails where one of its two steps does.** -/
theorem bind_eq_error {x : Except ε α} {f : α → Except ε β} {e : ε} :
    x >>= f = .error e ↔ x = .error e ∨ ∃ a, x = .ok a ∧ f a = .error e := by
  cases x with
  | error e' =>
    exact ⟨fun h => Or.inl (congrArg _ (Except.error.inj h)),
      fun h => h.elim (fun h => congrArg _ (Except.error.inj h)) fun ⟨_, h, _⟩ => nomatch h⟩
  | ok a =>
    exact ⟨fun h => Or.inr ⟨a, rfl, h⟩,
      fun h => h.elim nofun fun ⟨_, ha, h⟩ => by cases ha; exact h⟩

/-- A change makes no error and hides none. -/
theorem map_eq_error {x : Except ε α} {f : α → β} {e : ε} :
    f <$> x = .error e ↔ x = .error e := by
  cases x with
  | error e' =>
    exact ⟨fun h => congrArg _ (Except.error.inj h), fun h => congrArg _ (Except.error.inj h)⟩
  | ok a => exact ⟨nofun, nofun⟩

/-- **Steps that commute with maps make a chain that does.** -/
theorem bind_eq_map_bind {γ δ : Type} {x : Except ε α} {y : Except ε γ} {c : α → γ} {k : β → δ}
    {f : α → Except ε β} {g : γ → Except ε δ} (hx : y = c <$> x)
    (hf : ∀ a, x = .ok a → g (c a) = k <$> f a) : y >>= g = k <$> (x >>= f) := by
  subst hx
  cases x with
  | error e => rfl
  | ok a => exact hf a rfl

/-- A step before what commutes with a map. -/
theorem bind_eq_map_bind_right {δ : Type} {x : Except ε α} {k : β → δ} {f : α → Except ε β}
    {g : α → Except ε δ} (hf : ∀ a, x = .ok a → g a = k <$> f a) : x >>= g = k <$> (x >>= f) :=
  bind_eq_map_bind (id_map x).symm hf

/-- **Results that are the same when mapped** are the same error, or succeed and are the same when
mapped. -/
theorem exists_of_map_eq_map {γ : Type} {x : Except ε α} {y : Except ε γ} {f : α → β} {g : γ → β}
    (h : f <$> x = g <$> y) :
    (∃ e, x = .error e ∧ y = .error e) ∨ ∃ a c, x = .ok a ∧ y = .ok c ∧ f a = g c := by
  cases x with
  | error e =>
    cases y with
    | error e' =>
      have heq : e = e' := Except.error.inj h
      exact Or.inl ⟨e, rfl, heq ▸ rfl⟩
    | ok c => exact absurd h nofun
  | ok a =>
    cases y with
    | error e' => exact absurd h nofun
    | ok c => exact Or.inr ⟨a, c, rfl, rfl, Except.ok.inj h⟩

/-- A step that succeeds in one way only still does when its result is mapped. -/
theorem map_eq_ok_iff_of {p : Prop} {x : Except ε α} {a : α} (h : ∀ c, x = .ok c ↔ p ∧ a = c)
    {f : α → β} {b : β} : f <$> x = .ok b ↔ p ∧ f a = b := by
  simp only [map_eq_ok, h]
  constructor
  · rintro ⟨_, ⟨hp, rfl⟩, rfl⟩
    exact ⟨hp, rfl⟩
  · rintro ⟨hp, rfl⟩
    exact ⟨a, ⟨hp, rfl⟩, rfl⟩

/-- Whether a run succeeds does not depend on what is done with its result. -/
theorem exists_map_eq_ok_iff {x : Except ε α} {f : α → β} :
    (∃ b, f <$> x = .ok b) ↔ ∃ a, x = .ok a := by
  simp only [map_eq_ok]
  exact ⟨fun ⟨_, a, h, _⟩ => ⟨a, h⟩, fun ⟨a, h⟩ => ⟨_, a, h, rfl⟩⟩

/-- Renaming errors changes no success. -/
theorem mapError_eq_ok {δ : Type} {x : Except ε α} {f : ε → δ} {a : α} :
    x.mapError f = .ok a ↔ x = .ok a := by
  cases x with
  | error e => exact ⟨nofun, nofun⟩
  | ok b => exact ⟨fun h => congrArg _ (Except.ok.inj h), fun h => congrArg _ (Except.ok.inj h)⟩

/-- **A guard lets pass what does not have its condition.** -/
theorem guard_eq_ok {p : Prop} [Decidable p] {e : ε} {x : Except ε α} {a : α} :
    (if p then throw e else x) = .ok a ↔ ¬ p ∧ x = .ok a := by
  by_cases h : p <;> simp [h]

/-- A check of every element succeeds when it succeeds for each. -/
theorem forM_eq_ok {f : α → Except ε Unit} {as : List α} :
    as.forM f = .ok () ↔ ∀ a ∈ as, f a = .ok () := by
  induction as with
  | nil => exact ⟨fun _ => nofun, fun _ => rfl⟩
  | cons a as ih =>
    change (f a >>= fun _ => as.forM f) = _ ↔ _
    rw [check_bind_eq_ok, List.forall_mem_cons, ih]

/-- A run that is seen to succeed has a result. -/
theorem exists_of_isOk {x : Except ε α} (h : x.isOk = true) : ∃ a, x = .ok a := by
  cases x with
  | error e => exact nomatch h
  | ok a => exact ⟨a, rfl⟩

/-! ## Results of all elements

A step that may fail is made for every element of a list. It succeeds when it does for each, and the
results stand side by side with the elements. -/

/-- Elements have related ones together when each has one. -/
theorem exists_forall₂_iff {R : α → β → Prop} {as : List α} :
    (∃ bs, List.Forall₂ R as bs) ↔ ∀ a ∈ as, ∃ b, R a b := by
  induction as with
  | nil => exact ⟨fun _ => nofun, fun _ => ⟨[], .nil⟩⟩
  | cons a as ih =>
    rw [List.forall_mem_cons, ← ih]
    constructor
    · rintro ⟨_, h⟩
      obtain ⟨b, bs, hab, hrest, rfl⟩ := List.forall₂_cons_left_iff.1 h
      exact ⟨⟨b, hab⟩, ⟨bs, hrest⟩⟩
    · rintro ⟨⟨b, hab⟩, bs, hrest⟩
      exact ⟨b :: bs, .cons hab hrest⟩

/-- Every result belongs to an element. -/
theorem exists_of_forall₂_of_mem {R : α → β → Prop} {as : List α} {bs : List β}
    (h : List.Forall₂ R as bs) {b : β} (hb : b ∈ bs) : ∃ a ∈ as, R a b := by
  induction h with
  | nil => exact nomatch hb
  | cons hab _ ih =>
    rcases List.mem_cons.1 hb with rfl | hb
    · exact ⟨_, List.mem_cons_self, hab⟩
    · obtain ⟨a, ha, hab⟩ := ih hb
      exact ⟨a, List.mem_cons_of_mem _ ha, hab⟩

theorem exists_forall₂_map_iff {γ : Type} {R : α → β → Prop} {f : β → γ} {as : List α}
    {cs : List γ} :
    (∃ bs, List.Forall₂ R as bs ∧ bs.map f = cs) ↔
      List.Forall₂ (fun a c => ∃ b, R a b ∧ f b = c) as cs := by
  constructor
  · rintro ⟨bs, h, rfl⟩
    rw [List.forall₂_map_right_iff]
    exact h.imp fun a b hab => ⟨b, hab, rfl⟩
  · intro h
    induction h with
    | nil => exact ⟨[], .nil, rfl⟩
    | cons hab _ ih =>
      obtain ⟨b, hb, rfl⟩ := hab
      obtain ⟨bs, hbs, rfl⟩ := ih
      exact ⟨b :: bs, .cons hb hbs, rfl⟩

/-- Related elements give the same when each does. -/
theorem filterMap_eq_of_forall₂ {γ : Type} {R : α → β → Prop} {as : List α} {bs : List β}
    (h : List.Forall₂ R as bs) {f : α → Option γ} {g : β → Option γ}
    (hfg : ∀ a b, R a b → f a = g b) : as.filterMap f = bs.filterMap g := by
  induction h with
  | nil => rfl
  | cons hab _ ih => rw [List.filterMap_cons, List.filterMap_cons, hfg _ _ hab, ih]

/-- Elements are images together when each is one. -/
theorem exists_map_eq_iff {p : α → Prop} {f : α → β} {bs : List β} :
    (∃ as : List α, (∀ a ∈ as, p a) ∧ as.map f = bs) ↔ ∀ b ∈ bs, ∃ a, p a ∧ f a = b := by
  constructor
  · rintro ⟨as, h, rfl⟩
    exact List.forall_mem_map.2 fun a ha => ⟨a, h a ha, rfl⟩
  · intro h
    obtain ⟨as, has⟩ := exists_forall₂_iff.2 h
    refine ⟨as, fun a ha => ?_, ?_⟩
    · obtain ⟨b, -, hab⟩ := exists_of_forall₂_of_mem has ha
      exact hab.1
    · have heq : List.Forall₂ (fun a b => f a = b) as bs := (has.imp fun _ _ hab => hab.2).flip
      rwa [← List.forall₂_map_left_iff (R := Eq), List.forall₂_eq_eq_eq] at heq

/-! ## Two runs

Two runs agree when both fail with the same error, or both succeed with related results. One rule
for chains carries this through a program. -/

/-- **Whether two runs agree**: they fail with the same error, or both succeed and the results are
related. -/
inductive Agree (R : α → β → Prop) : Except ε α → Except ε β → Prop
  | error (e : ε) : Agree R (.error e) (.error e)
  | ok {a : α} {b : β} : R a b → Agree R (.ok a) (.ok b)

/-- A run agrees with itself. -/
theorem agree_self {R : α → α → Prop} (hR : ∀ a, R a a) (x : Except ε α) : Agree R x x := by
  cases x with
  | error e => exact .error e
  | ok a => exact .ok (hR a)

theorem Agree.imp {R S : α → β → Prop} {x : Except ε α} {y : Except ε β} (h : Agree R x y)
    (hRS : ∀ a b, R a b → S a b) : Agree S x y := by
  cases h with
  | error e => exact .error e
  | ok hab => exact .ok (hRS _ _ hab)

section

variable {γ δ : Type} {S : γ → δ → Prop}

/-- **Chains agree whose steps do.** -/
theorem Agree.bind {R : α → β → Prop} {x : Except ε α} {y : Except ε β} (h : Agree R x y)
    {f : α → Except ε γ} {g : β → Except ε δ} (hfg : ∀ a b, R a b → Agree S (f a) (g b)) :
    Agree S (x >>= f) (y >>= g) := by
  cases h with
  | error e => exact .error e
  | ok hab => exact hfg _ _ hab

/-- Chains agree that begin with the same step. -/
theorem agree_bind_right {x : Except ε α} {f : α → Except ε γ} {g : α → Except ε δ}
    (hfg : ∀ a, Agree S (f a) (g a)) : Agree S (x >>= f) (x >>= g) := by
  cases x with
  | error e => exact .error e
  | ok a => exact hfg a

end

end Deployment.Outcome
