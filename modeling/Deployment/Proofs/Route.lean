import Deployment.Proofs.Hostname.Fragment
import Deployment.Route

/-!
# Proofs/Route — which services can be routed together

Where a service stands follows from the service and the root domain alone (`placed`); what came
before only decides whether the place is still free.  So routing a list succeeds when every place is
a host name and no two services have the same one (`services_eq_ok_iff`), in whatever order they
stand.
-/

namespace Deployment

namespace Route

/-! ## The place of a service -/

/-- The fragment that a service asks for, as a fragment is written. -/
@[irreducible] def fragmentText (s : Service) : String := Fragment.normalText (asked s)

/-- Whether a service asks for the root domain. -/
def asksRoot (s : Service) : Bool := Fragment.isRoot ⟨fragmentText s⟩

/-- The name that a service asks for. -/
def hostOf (root : Hostname) (s : Service) : Hostname :=
  if asksRoot s then root else ⟨Hostname.under (fragmentText s) root.text⟩

/-- A service under the name it asks for. -/
def placed (root : Hostname) (s : Service) : Service :=
  s.routed ⟨fragmentText s⟩ (hostOf root s)

/-- Whether the fragment of a service and its name keep the rules. -/
structure Named (root : Hostname) (s : Service) : Prop where
  fragment : Fragment.Grammar (fragmentText s)
  name : Hostname.Grammar (hostOf root s).text

/-- A service that asks for it stands on the root domain. -/
theorem hostOf_of_asksRoot {root : Hostname} {s : Service} (h : asksRoot s = true) :
    hostOf root s = root := if_pos h

/-- Every other service stands under its fragment. -/
theorem hostOf_of_not_asksRoot {root : Hostname} {s : Service} (h : ¬ asksRoot s = true) :
    hostOf root s = ⟨Hostname.under (fragmentText s) root.text⟩ := if_neg h

/-- **A service stands on the root domain when it asks for a reserved fragment.** -/
theorem hostOf_eq_root_iff {root : Hostname} {s : Service} :
    hostOf root s = root ↔ asksRoot s = true := by
  refine ⟨fun h => ?_, hostOf_of_asksRoot⟩
  by_contra hs
  rw [hostOf_of_not_asksRoot hs] at h
  exact Hostname.under_ne _ _ (congrArg Hostname.text h)

/-! ## What is taken

The program keeps the owner of the root domain apart from the other fragments. Both stand for host
names, and routing is said by these. -/

/-- The names that are given away. -/
def Taken.names (taken : Taken) (root : Hostname) : List Hostname :=
  (taken.owner.map fun _ => root).toList ++
    taken.fragments.map fun f => ⟨Hostname.under f root.text⟩

/-- What is given away when a service has got its name. -/
def Taken.add (taken : Taken) (s : Service) : Taken :=
  if asksRoot s then { taken with owner := some s.name }
  else { taken with fragments := fragmentText s :: taken.fragments }

/-- The root domain is given away when it has an owner. -/
theorem Taken.root_mem_names {taken : Taken} {root : Hostname} :
    root ∈ taken.names root ↔ taken.owner ≠ none := by
  have hnot : root ∉ taken.fragments.map fun f => (⟨Hostname.under f root.text⟩ : Hostname) := by
    intro h
    obtain ⟨f, -, hf⟩ := List.mem_map.1 h
    exact Hostname.under_ne _ _ (congrArg Hostname.text hf)
  rw [names, List.mem_append, or_iff_left hnot]
  cases taken.owner <;> simp

theorem Taken.under_mem_names {taken : Taken} {root : Hostname} {f : String} :
    (⟨Hostname.under f root.text⟩ : Hostname) ∈ taken.names root ↔ f ∈ taken.fragments := by
  have hnot : (⟨Hostname.under f root.text⟩ : Hostname) ∉
      (taken.owner.map fun _ => root).toList := by
    intro h
    obtain ⟨-, -, hr⟩ : ∃ a, taken.owner = some a ∧ root = ⟨Hostname.under f root.text⟩ := by
      simpa using h
    exact Hostname.under_ne _ _ (congrArg Hostname.text hr).symm
  rw [names, List.mem_append, or_iff_right hnot, List.mem_map]
  constructor
  · rintro ⟨g, hg, h⟩
    rwa [← Hostname.under_inj (congrArg Hostname.text h)]
  · exact fun h => ⟨f, h, rfl⟩

/-- **A service that has got its name takes this name and no other.** -/
theorem Taken.mem_names_add {taken : Taken} {root h : Hostname} {s : Service} :
    h ∈ (taken.add s).names root ↔ h = hostOf root s ∨ h ∈ taken.names root := by
  by_cases hs : asksRoot s = true
  · rw [add, if_pos hs, hostOf_of_asksRoot hs]
    cases howner : taken.owner <;> simp [names, howner]
  · rw [add, if_neg hs, hostOf_of_not_asksRoot hs]
    simp only [names, List.map_cons, List.mem_append, List.mem_cons]
    exact or_left_comm

/-! ## One service

A service is refused for its fragment, for what is taken, or for the length of its name, in this
order. It is routed when none of this holds. -/

/-- The fragment that is asked for is accepted when its normal text keeps the rules. -/
theorem ofString_asked_eq_ok_iff {s : Service} {f : Fragment} :
    Fragment.ofString (asked s) = .ok f ↔
      Fragment.Grammar (fragmentText s) ∧ f = ⟨fragmentText s⟩ := by
  rw [fragmentText]
  exact Fragment.ofString_eq_ok_iff

/-- The name under the domain is accepted when it keeps them. -/
theorem withFragment_eq_ok_iff {root h : Hostname} {s : Service} (hs : ¬ asksRoot s = true) :
    root.withFragment ⟨fragmentText s⟩ = .ok h ↔
      Hostname.Grammar (hostOf root s).text ∧ h = hostOf root s := by
  rw [hostOf_of_not_asksRoot hs]
  exact Hostname.withFragment_eq_ok_iff

/-- **Routing a service** looks at its fragment, at what is taken and at the name, in this order. -/
theorem service_eq (root : Hostname) (taken : Taken) (s : Service) :
    service root taken s =
      if Fragment.Grammar (fragmentText s) then
        if asksRoot s = true then
          match taken.owner with
          | some owner => throw (.rootConflict owner s.name)
          | none => pure (placed root s, taken.add s)
        else if fragmentText s ∈ taken.fragments then throw (.fragmentTaken (fragmentText s))
        else if Hostname.Grammar (hostOf root s).text then pure (placed root s, taken.add s)
        else throw (.invalidSubdomain s.name (asked s))
      else throw (.invalidSubdomain s.name (asked s)) := by
  rw [service]
  by_cases hf : Fragment.Grammar (fragmentText s)
  · have hof : Fragment.ofString (asked s) = .ok ⟨fragmentText s⟩ :=
      ofString_asked_eq_ok_iff.2 ⟨hf, rfl⟩
    rw [if_pos hf, hof]
    change (if asksRoot s = true then _ else _) = _
    by_cases hs : asksRoot s = true
    · rw [if_pos hs, if_pos hs]
      cases taken.owner with
      | some owner => rfl
      | none => simp only [placed, hostOf_of_asksRoot hs, Taken.add, if_pos hs]
    · rw [if_neg hs, if_neg hs]
      simp only [List.contains_iff_mem]
      by_cases hm : fragmentText s ∈ taken.fragments
      · rw [if_pos hm, if_pos hm]
      · rw [if_neg hm, if_neg hm]
        by_cases hn : Hostname.Grammar (hostOf root s).text
        · rw [if_pos hn, (withFragment_eq_ok_iff hs).2 ⟨hn, rfl⟩, placed, Taken.add, if_neg hs]
        · rw [if_neg hn]
          cases hw : root.withFragment ⟨fragmentText s⟩ with
          | error e => rfl
          | ok h => exact absurd ((withFragment_eq_ok_iff hs).1 hw).1 hn
  · rw [if_neg hf]
    cases ho : Fragment.ofString (asked s) with
    | error e => rfl
    | ok f => exact absurd (ofString_asked_eq_ok_iff.1 ho).1 hf

/-- **A service is routed when its name keeps the rules and is free**; it then stands in its place
and has taken its name. -/
theorem service_eq_ok_iff {root : Hostname} (hroot : Hostname.Grammar root.text) {taken : Taken}
    {s s' : Service} {taken' : Taken} :
    service root taken s = .ok (s', taken') ↔
      (Named root s ∧ hostOf root s ∉ taken.names root) ∧ placed root s = s' ∧
        taken.add s = taken' := by
  rw [service_eq, ← Prod.mk.injEq]
  by_cases hf : Fragment.Grammar (fragmentText s)
  · rw [if_pos hf]
    by_cases hs : asksRoot s = true
    · have hname : Named root s := ⟨hf, by rwa [hostOf_of_asksRoot hs]⟩
      rw [if_pos hs, hostOf_of_asksRoot hs, Taken.root_mem_names, not_not]
      cases taken.owner with
      | some owner => exact ⟨nofun, fun h => nomatch h.1.2⟩
      | none => exact Outcome.pure_eq_ok.trans ⟨fun h => ⟨⟨hname, rfl⟩, h⟩, fun h => h.2⟩
    -- away from the root, a name is free exactly where its fragment is
    · rw [if_neg hs, Outcome.guard_eq_ok]
      have hfree : hostOf root s ∉ taken.names root ↔ fragmentText s ∉ taken.fragments := by
        rw [hostOf_of_not_asksRoot hs, Taken.under_mem_names]
      rw [hfree]
      by_cases hn : Hostname.Grammar (hostOf root s).text
      · rw [if_pos hn, Outcome.pure_eq_ok]
        exact ⟨fun h => ⟨⟨⟨hf, hn⟩, h.1⟩, h.2⟩, fun h => ⟨h.1.2, h.2⟩⟩
      · rw [if_neg hn]
        exact ⟨fun h => (nomatch h.2), fun h => absurd h.1.1.name hn⟩
  · rw [if_neg hf]
    exact ⟨nofun, fun h => absurd h.1.1.fragment hf⟩

/-! ## All services -/

/-- **Services are routed when their names keep the rules, are free and are pairwise different**;
each then stands in its place. -/
theorem services_eq_ok_iff {root : Hostname} (hroot : Hostname.Grammar root.text) {taken : Taken}
    {es es' : List (String × Service)} :
    services root taken es = .ok es' ↔
      (∀ e ∈ es, Named root e.2 ∧ hostOf root e.2 ∉ taken.names root) ∧
        (es.map fun e => hostOf root e.2).Nodup ∧
        es' = es.map fun e => (e.1, placed root e.2) := by
  -- the names given away before the services are general: each service adds its own
  induction es generalizing taken es' with
  | nil =>
    exact Outcome.pure_eq_ok.trans
      ⟨fun h => ⟨nofun, List.nodup_nil, h.symm⟩, fun h => h.2.2.symm⟩
  | cons e es ih =>
    obtain ⟨name, s⟩ := e
    rw [services, Outcome.bind_eq_ok, List.forall_mem_cons, List.map_cons, List.map_cons,
      List.nodup_cons]
    simp only [Prod.exists, service_eq_ok_iff hroot, Outcome.bind_eq_ok, Outcome.pure_eq_ok, ih]
    constructor
    · rintro ⟨_, _, ⟨hs, rfl, rfl⟩, _, ⟨hrest, hnodup, rfl⟩, rfl⟩
      have hfree (e : String × Service) (he : e ∈ es) :
          hostOf root e.2 ≠ hostOf root s ∧ hostOf root e.2 ∉ taken.names root := by
        have h := (hrest e he).2
        rwa [Taken.mem_names_add, not_or] at h
      refine ⟨⟨hs, fun e he => ⟨(hrest e he).1, (hfree e he).2⟩⟩, ⟨fun hmem => ?_, hnodup⟩, rfl⟩
      obtain ⟨e, he, heq⟩ := List.mem_map.1 hmem
      exact (hfree e he).1 heq
    · rintro ⟨⟨hs, hrest⟩, ⟨hnot, hnodup⟩, rfl⟩
      simp only [List.mem_map, not_exists, not_and] at hnot
      have hfree (e : String × Service) (he : e ∈ es) :
          hostOf root e.2 ∉ (taken.add s).names root := by
        rw [Taken.mem_names_add, not_or]
        exact ⟨hnot e he, (hrest e he).2⟩
      exact ⟨_, _, ⟨hs, rfl, rfl⟩, _,
        ⟨fun e he => ⟨(hrest e he).1, hfree e he⟩, hnodup, rfl⟩, rfl⟩

end Route

/-- **The services of a document can be routed under a domain** when their names keep the rules and
are pairwise different. -/
structure Document.Routable (d : Document) (root : Hostname) : Prop where
  named : ∀ e ∈ d.services, Route.Named root e.2
  apart : (d.services.map fun e => Route.hostOf root e.2).Nodup

/-- A document whose services stand in their places. -/
def Document.placed (d : Document) (root : Hostname) : Document :=
  { d with services := d.services.map fun e => (e.1, Route.placed root e.2) }

/-- **A document is routed when its services can be**, and each then stands in its place. -/
theorem Document.route_eq_ok_iff {d d' : Document} {root : Hostname}
    (hroot : Hostname.Grammar root.text) :
    d.route root = .ok d' ↔ d.Routable root ∧ d' = d.placed root := by
  rw [route, Outcome.bind_eq_ok]
  simp only [Route.services_eq_ok_iff hroot, Outcome.pure_eq_ok]
  constructor
  · rintro ⟨_, ⟨hnamed, hapart, rfl⟩, rfl⟩
    exact ⟨⟨fun e he => (hnamed e he).1, hapart⟩, rfl⟩
  · rintro ⟨h, rfl⟩
    exact ⟨_, ⟨fun e he => ⟨h.named e he, by simp [Route.Taken.names]⟩, h.apart, rfl⟩, rfl⟩

end Deployment
