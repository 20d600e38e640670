import Deployment.Proofs.Outcome
import Deployment.Violation

/-!
# Proofs/Check — rules that are looked at in an order

A check says whether a rule holds and what is reported where it does not.  `Follows x cs`: the
result `x` reports the first check of `cs` that fails, and there is none where `x` succeeds.  Chains
(`Follows.bind`), guards (`Follows.guard`) and loops (`Follows.forM`) of what follows its checks
follow the checks put one after the other, so the order of a program is read off its text.
-/

namespace Deployment

/-- **One look at a rule**: whether it holds, and the violation if it does not. -/
structure Check where
  passes : Bool
  violation : Violation

namespace Check

variable {α β : Type}

/-! ## The first check that fails

Validation stops at the first rule that is broken. Of a list of checks this is the first one that
does not pass. -/

/-- The violation that is found first. -/
def first? (cs : List Check) : Option Violation :=
  (cs.find? fun c => !c.passes).map Check.violation

/-- **A violation comes first** when every check before it passes. -/
def ComesFirst (cs : List Check) (v : Violation) : Prop :=
  ∃ before c after, cs = before ++ c :: after ∧ (∀ b ∈ before, b.passes = true) ∧
    c.passes = false ∧ c.violation = v

/-- The first violation is that of a check with passing ones in front. -/
theorem first?_eq_some_iff {cs : List Check} {v : Violation} :
    first? cs = some v ↔ ComesFirst cs v := by
  rw [first?, Option.map_eq_some_iff]
  constructor
  · rintro ⟨c, hc, rfl⟩
    obtain ⟨hfails, before, after, rfl, hbefore⟩ := List.find?_eq_some_iff_append.1 hc
    exact ⟨before, c, after, rfl, by simpa using hbefore, by simpa using hfails, rfl⟩
  · rintro ⟨before, c, after, rfl, hbefore, hfails, rfl⟩
    refine ⟨c, List.find?_eq_some_iff_append.2 ⟨by simpa using hfails, before, after, rfl, ?_⟩, rfl⟩
    simpa using hbefore

theorem first?_eq_none_iff {cs : List Check} :
    first? cs = none ↔ ∀ c ∈ cs, c.passes = true := by
  simp [first?]

/-- Checks in front are reported in front. -/
theorem first?_append (cs ds : List Check) :
    first? (cs ++ ds) = (first? cs).or (first? ds) := by
  rw [first?, List.find?_append, Option.map_or, ← first?, ← first?]

theorem first?_cons (c : Check) (cs : List Check) :
    first? (c :: cs) = if c.passes then first? cs else some c.violation := by
  cases h : c.passes <;> simp [first?, h]

/-! ## Following checks -/

/-- The violation that a result reports. -/
def reported? : Except Violation α → Option Violation
  | .error v => some v
  | .ok _ => none

/-- **A result follows checks** when it reports the first one that fails. -/
def Follows (x : Except Violation α) (cs : List Check) : Prop := reported? x = first? cs

namespace Follows

variable {x : Except Violation α} {cs ds : List Check}

/-- **What follows checks fails with the violation that comes first.** -/
theorem eq_error_iff (h : Follows x cs) {v : Violation} : x = .error v ↔ ComesFirst cs v := by
  rw [← first?_eq_some_iff, ← show reported? x = first? cs from h]
  cases x with
  | error w => rw [reported?, Except.error.injEq, Option.some.injEq]
  | ok a => exact ⟨nofun, nofun⟩

/-- **What follows checks succeeds where all of them pass.** -/
theorem exists_eq_ok_iff (h : Follows x cs) :
    (∃ a, x = .ok a) ↔ ∀ c ∈ cs, c.passes = true := by
  rw [← first?_eq_none_iff, ← show reported? x = first? cs from h]
  cases x with
  | error w => exact ⟨nofun, nofun⟩
  | ok a => exact ⟨fun _ => rfl, fun _ => ⟨a, rfl⟩⟩

theorem ok (a : α) : Follows (.ok a) [] := rfl

/-- A check in front: where it fails it is reported, and where it passes the others are followed. -/
theorem cons {c : Check} (hpass : c.passes = true → Follows x cs)
    (hfail : c.passes = false → x = .error c.violation) : Follows x (c :: cs) := by
  rw [Follows, first?_cons]
  cases hc : c.passes with
  | false => rw [hfail hc]; rfl
  | true => exact hpass hc

/-- **A chain follows the checks of its steps.** The second step is held to its own only where the
first succeeds. -/
theorem bind {f : α → Except Violation β} (hx : Follows x cs)
    (hf : ∀ a, x = .ok a → Follows (f a) ds) : Follows (x >>= f) (cs ++ ds) := by
  rw [Follows, first?_append, ← show reported? x = first? cs from hx]
  cases x with
  | error v => rfl
  | ok a => exact hf a rfl

theorem map {f : α → β} (hx : Follows x cs) : Follows (f <$> x) cs := by
  rw [Follows, ← show reported? x = first? cs from hx]
  cases x <;> rfl

/-- A check of a rule in front. -/
theorem rule {p : Prop} [Decidable p] {v : Violation} (hpass : p → Follows x cs)
    (hfail : ¬ p → x = .error v) : Follows x (⟨decide p, v⟩ :: cs) :=
  cons (fun h => hpass (of_decide_eq_true h)) fun h => hfail (of_decide_eq_false h)

/-- **A guard is a check in front.** -/
theorem guard {p : Prop} [Decidable p] {passes : Bool} {v : Violation}
    (hp : passes = true ↔ ¬ p) (hx : ¬ p → Follows x cs) :
    Follows (if p then throw v else x) (⟨passes, v⟩ :: cs) := by
  apply cons
  · intro hpass
    rw [if_neg (hp.1 hpass)]
    exact hx (hp.1 hpass)
  · intro hfail
    exact if_pos (not_not.1 fun hnot => Bool.false_ne_true (hfail.symm.trans (hp.2 hnot)))

/-- **A loop follows the checks of its elements.** -/
theorem forM {f : α → Except Violation Unit} {checks : α → List Check} {as : List α}
    (hf : ∀ a ∈ as, Follows (f a) (checks a)) : Follows (as.forM f) (as.flatMap checks) := by
  induction as with
  | nil => exact ok ()
  | cons a as ih =>
    rw [List.flatMap_cons]
    exact (hf a List.mem_cons_self).bind fun _ _ => ih fun b hb => hf b (List.mem_cons_of_mem a hb)

end Follows

/-- The checks of elements that are compared with those before them. -/
def along (checks : List α → α → List Check) : List α → List α → List Check
  | _, [] => []
  | earlier, a :: as => checks earlier a ++ along checks (earlier ++ [a]) as

end Check

end Deployment
