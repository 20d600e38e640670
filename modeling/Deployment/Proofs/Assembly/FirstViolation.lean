import Deployment.Proofs.Assembly.Deployable
import Deployment.Proofs.Check

/-!
# Proofs/Assembly/FirstViolation — the order in which rules are looked at

`Document.checks` lists all checks of a document and a target in one order, each written down
without regard to those before it.  `Document.assemble_follows`: assembling reports the first one
that fails.  Where a service is compared with earlier ones, what the program keeps of them is all
that matters (`Route.Agrees`).
-/

namespace Deployment

open Check
open Hostname (canonicalText)

/-! ## Domain and aliases

An alias is compared with the domain and with the aliases before it. The program carries these along
in one list; the checks of an alias say them by the texts in front. -/

/-- What is said of a text that is no domain. -/
def Hostname.fault (text : String) : String :=
  match canonical text with
  | .error e => e.message
  | .ok _ => ""

/-- The check of a domain. -/
def Target.domainChecks (t : Target) : List Check :=
  [⟨decide (Hostname.Grammar (canonicalText t.domain)),
    .invalidDomain t.domain (Hostname.fault t.domain)⟩]

/-- The checks of an alias that follows earlier ones. -/
def Target.aliasChecks (root : Hostname) (earlier : List String) (text : String) : List Check :=
  [⟨decide (Hostname.Grammar (canonicalText text)), .invalidAlias text (Hostname.fault text)⟩,
    ⟨decide ((⟨canonicalText text⟩ : Hostname) ≠ root), .aliasIsDomain text⟩,
    ⟨decide ((⟨canonicalText text⟩ : Hostname) ∉ Validation.aliasNames earlier),
      .duplicateAlias text⟩]

/-- A name that does not keep the rules has a fault, and this is the one reported. -/
theorem Hostname.canonical_eq_error {text : String} (h : ¬ Grammar (canonicalText text)) :
    ∃ e, canonical text = .error e ∧ fault text = e.message := by
  cases hc : canonical text with
  | ok name => exact absurd (canonical_eq_ok_iff.1 hc).1 h
  | error e => exact ⟨e, rfl, by rw [fault, hc]⟩

namespace Validation

theorem follows_domain (t : Target) : Follows (domain t.domain) t.domainChecks := by
  apply Follows.rule
  · intro hpass
    rw [domain, Hostname.canonical_eq_ok_iff.2 ⟨hpass, rfl⟩]
    exact Follows.ok _
  · intro hfail
    obtain ⟨e, he, hfault⟩ := Hostname.canonical_eq_error hfail
    rw [domain, he, hfault]
    rfl

/-- An alias has three checks: its form, the domain, and the aliases in front. -/
theorem follows_aliasName {root : Hostname} {earlier : List Hostname} {texts : List String}
    (h : ∀ name, name ∈ earlier ↔ name ∈ aliasNames texts) (text : String) :
    Follows (aliasName root earlier text) (Target.aliasChecks root texts text) := by
  apply Follows.rule
  · intro hpass
    rw [aliasName, Hostname.canonical_eq_ok_iff.2 ⟨hpass, rfl⟩]
    refine Follows.guard decide_eq_true_iff fun _ => Follows.guard ?_ fun _ => Follows.ok _
    rw [decide_eq_true_iff, h]
  · intro hfail
    obtain ⟨e, he, hfault⟩ := Hostname.canonical_eq_error hfail
    rw [aliasName, he, hfault]
    rfl

/-- The induction runs over the aliases that are left, with those in front as the invariant. -/
theorem follows_aliasesAfter {root : Hostname} {earlier : List Hostname}
    {before texts : List String} (h : ∀ name, name ∈ earlier ↔ name ∈ aliasNames before) :
    Follows (aliasesAfter root earlier texts) (along (Target.aliasChecks root) before texts) := by
  induction texts generalizing earlier before with
  | nil => exact Follows.ok []
  | cons text texts ih =>
    refine (follows_aliasName h text).bind fun name hname => ?_
    obtain ⟨-, rfl⟩ := aliasName_eq_ok_iff.1 hname
    have hnext (n : Hostname) : n ∈ (⟨canonicalText text⟩ : Hostname) :: earlier ↔
        n ∈ aliasNames (before ++ [text]) := by
      rw [List.mem_cons, h, aliasNames, aliasNames, List.map_append, List.mem_append,
        List.map_singleton, List.mem_singleton, or_comm]
    rw [← List.append_nil (along _ _ _)]
    exact (ih hnext).bind fun _ _ => Follows.ok _

/-- In front of the first alias there is none. -/
theorem follows_aliases (root : Hostname) (texts : List String) :
    Follows (aliases root texts) (along (Target.aliasChecks root) [] texts) :=
  follows_aliasesAfter fun _ => Iff.rfl

end Validation

/-! ## Owner and credentials -/

/-- The check of an owner. -/
def Target.customerChecks (t : Target) : List Check :=
  [⟨!Text.isBlankText t.customer, .missingCustomer⟩]

/-- The check of credentials: user name and password go together. -/
def Registry.check (scope : String) (r : Registry) : Check :=
  ⟨isGiven r.username == isGiven r.password,
    .incompleteCredentials scope (if isGiven r.username then "password" else "username")⟩

/-- The checks of credentials that may be missing as a whole. -/
def Registry.checks (scope : String) (r? : Option Registry) : List Check :=
  r?.toList.map (check scope)

namespace Validation

theorem follows_customer (t : Target) : Follows (customer t.customer) t.customerChecks :=
  Follows.guard (by simp) fun _ => Follows.ok ()

/-- Credentials of which one is missing are reported under their scope. -/
theorem follows_credentials (scope : String) (r : Registry) :
    Follows (credentials scope r) [r.check scope] := by
  rw [credentials, Registry.missing?, Registry.check]
  cases Registry.isGiven r.username <;> cases Registry.isGiven r.password <;> rfl

/-- Where no credentials are given nothing is checked. -/
theorem follows_registry (scope : String) (r? : Option Registry) :
    Follows (r?.forM (credentials scope)) (Registry.checks scope r?) := by
  cases r? with
  | none => exact Follows.ok ()
  | some r => exact follows_credentials _ r

theorem follows_serviceCredentials (s : Service) :
    Follows (serviceCredentials s) (Registry.checks (scopeOf s) s.registry) := by
  rw [serviceCredentials]
  cases s.registry with
  | none => exact Follows.ok ()
  | some r => exact follows_credentials _ r

end Validation

/-! ## Images and volumes -/

/-- The check of a mount: a volume that it names is declared. -/
def Service.volumeChecks (declared : NameSet) (s : Service) (entry : String) : List Check :=
  match VolumeSource.ofEntry entry with
  | .named name => [⟨decide (name ∈ declared), .undeclaredVolume s.name name⟩]
  | _ => []

/-- The checks of a service: its image, then its mounts. -/
def Service.checks (declared : NameSet) (s : Service) : List Check :=
  ⟨!Text.isBlankText s.image, .missingImage s.name⟩ :: s.volumes.flatMap (s.volumeChecks declared)

namespace Validation

/-- A mount is checked if it names a volume, and it has to be declared. -/
theorem follows_volume (declared : NameSet) (s : Service) (entry : String) :
    Follows (volume declared s entry) (s.volumeChecks declared entry) := by
  rw [volume, Service.volumeChecks]
  cases VolumeSource.ofEntry entry with
  | named name =>
    change Follows (if name ∈ declared then pure () else throw _) [_]
    apply Follows.rule
    · intro hname
      rw [if_pos hname]
      exact Follows.ok ()
    · intro hname
      exact if_neg hname
  | bind path => exact Follows.ok ()
  | anonymous => exact Follows.ok ()

/-- The image is looked at before the mounts. -/
theorem follows_service (declared : NameSet) (s : Service) :
    Follows (service declared s) (s.checks declared) := by
  have himage : Follows (image s) [⟨!Text.isBlankText s.image, .missingImage s.name⟩] :=
    Follows.guard (by simp) fun _ => Follows.ok ()
  exact himage.bind fun _ _ => Follows.forM fun entry _ => follows_volume declared s entry

/-- A document without services is refused before any of them is looked at. -/
theorem follows_services (d : Document) :
    Follows (services d) (⟨!d.services.isEmpty, .emptyDeployment⟩ ::
      d.services.flatMap fun e => e.2.checks d.volumes) :=
  Follows.guard (by simp) fun _ => Follows.forM fun e _ => follows_service d.volumes e.2

end Validation

/-! ## Routes

What is given away is carried from one service to the next. It agrees with the services in front
(`Agrees`), and the checks of a service are stated by these. -/

namespace Route

/-- The first service that asks for the root domain. -/
def owner? (earlier : List Service) : Option String := (earlier.find? asksRoot).map Service.name

/-- The checks of the route of a service that follows earlier ones. -/
def checks (root : Hostname) (earlier : List Service) (s : Service) : List Check :=
  ⟨decide (Fragment.Grammar (fragmentText s)), .invalidSubdomain s.name (asked s)⟩ ::
    if asksRoot s then
      [⟨(owner? earlier).isNone, .rootConflict ((owner? earlier).getD "") s.name⟩]
    else
      [⟨decide (fragmentText s ∉ earlier.map fragmentText), .fragmentTaken (fragmentText s)⟩,
        ⟨decide (Hostname.Grammar (Hostname.under (fragmentText s) root.text)),
          .invalidSubdomain s.name (asked s)⟩]

/-- **What is taken is what earlier services asked for.** -/
structure Agrees (taken : Taken) (earlier : List Service) : Prop where
  owner : taken.owner = owner? earlier
  fragments : ∀ f, f ∈ taken.fragments ↔
    ∃ e ∈ earlier, ¬ asksRoot e = true ∧ fragmentText e = f

theorem agrees_nil : Agrees {} [] := ⟨rfl, fun f => by simp⟩

/-- Whether a service asks for the root domain is told by its fragment. -/
theorem asksRoot_congr {s s' : Service} (h : fragmentText s = fragmentText s') :
    asksRoot s = asksRoot s' := by
  rw [asksRoot, asksRoot, h]

/-- Among the fragments taken, only those of services beside the root domain are looked at. -/
theorem Agrees.mem_fragments_iff {taken : Taken} {earlier : List Service} (h : Agrees taken earlier)
    {s : Service} (hs : ¬ asksRoot s = true) :
    fragmentText s ∈ taken.fragments ↔ fragmentText s ∈ earlier.map fragmentText := by
  rw [h.fragments, List.mem_map]
  constructor
  · rintro ⟨e, he, -, heq⟩
    exact ⟨e, he, heq⟩
  · rintro ⟨e, he, heq⟩
    exact ⟨e, he, by rwa [asksRoot_congr heq], heq⟩

/-- **Taking a name keeps the agreement.** -/
theorem Agrees.add {taken : Taken} {earlier : List Service} (h : Agrees taken earlier) {s : Service}
    (hfree : asksRoot s = true → taken.owner = none) : Agrees (taken.add s) (earlier ++ [s]) := by
  by_cases hs : asksRoot s = true
  -- the first service to ask for the root owns it, and its fragment is not given away
  · have hnone : earlier.find? asksRoot = none := by
      have howner := h.owner.symm.trans (hfree hs)
      rwa [owner?, Option.map_eq_none_iff] at howner
    rw [Taken.add, if_pos hs]
    refine ⟨?_, fun f => (h.fragments f).trans ?_⟩
    · rw [owner?, List.find?_append, hnone, Option.none_or, List.find?_singleton, if_pos hs]
      rfl
    · simp only [List.mem_append, List.mem_singleton]
      constructor
      · rintro ⟨e, he, hrest⟩
        exact ⟨e, Or.inl he, hrest⟩
      · rintro ⟨e, he | rfl, hne, heq⟩
        · exact ⟨e, he, hne, heq⟩
        · exact absurd hs hne
  · rw [Taken.add, if_neg hs]
    refine ⟨?_, fun f => ?_⟩
    · rw [h.owner, owner?, owner?, List.find?_append, List.find?_singleton, if_neg hs,
        Option.or_none]
    · rw [List.mem_cons, h.fragments]
      simp only [List.mem_append, List.mem_singleton]
      constructor
      · rintro (rfl | ⟨e, he, hrest⟩)
        · exact ⟨s, Or.inr rfl, hs, rfl⟩
        · exact ⟨e, Or.inl he, hrest⟩
      · rintro ⟨e, he | rfl, hne, heq⟩
        · exact Or.inr ⟨e, he, hne, heq⟩
        · exact Or.inl heq.symm

/-- A service is refused for its fragment, then for the name that is taken, then for the name that
it would have. -/
theorem follows_service {root : Hostname} {taken : Taken} {earlier : List Service}
    (h : Agrees taken earlier) (s : Service) :
    Follows (service root taken s) (checks root earlier s) := by
  rw [service_eq]
  refine Follows.rule (fun hfragment => ?_) fun hfragment => if_neg hfragment
  rw [if_pos hfragment]
  by_cases hs : asksRoot s = true
  · rw [if_pos hs, if_pos hs, h.owner]
    cases owner? earlier with
    | none => exact Follows.cons (fun _ => Follows.ok _) nofun
    | some owner => exact Follows.cons nofun fun _ => rfl
  · rw [if_neg hs, if_neg hs, hostOf_of_not_asksRoot hs]
    refine Follows.guard ?_ fun _ => Follows.rule (fun hname => ?_) fun hname => if_neg hname
    · rw [decide_eq_true_iff, h.mem_fragments_iff hs]
    · rw [if_pos hname]
      exact Follows.ok _

/-- The run over all services keeps `Agrees`, so each service follows the checks that the ones in
front leave it. -/
theorem follows_routes {root : Hostname} (hroot : Hostname.Grammar root.text) {taken : Taken}
    {earlier : List Service} (h : Agrees taken earlier) (es : List (String × Service)) :
    Follows (services root taken es) (along (checks root) earlier (es.map Prod.snd)) := by
  induction es generalizing taken earlier with
  | nil => exact Follows.ok []
  | cons e es ih =>
    obtain ⟨name, s⟩ := e
    refine (follows_service h s).bind fun placed hplaced => ?_
    obtain ⟨⟨-, hfree⟩, -, hnext⟩ := (service_eq_ok_iff hroot).1 hplaced
    have hagrees : Agrees placed.2 (earlier ++ [s]) := by
      rw [← hnext]
      refine h.add fun hs => ?_
      rwa [hostOf_of_asksRoot hs, Taken.root_mem_names, not_not] at hfree
    rw [← List.append_nil (along _ _ _)]
    exact (ih hagrees).bind fun _ _ => Follows.ok _

theorem follows_route {root : Hostname} (hroot : Hostname.Grammar root.text) (d : Document) :
    Follows (d.route root) (along (checks root) [] (d.services.map Prod.snd)) := by
  rw [← List.append_nil (along _ _ _)]
  exact (follows_routes hroot agrees_nil d.services).bind fun _ _ => Follows.ok _

end Route

/-! ## Documents

The validators run one after the other, and each stops the run. Chained, they follow the one list of
all checks in the order in which they are made. -/

/-- **All checks of a document and a target, in their order.** -/
def Document.checks (d : Document) (t : Target) : List Check :=
  List.flatten [
    t.domainChecks,
    along (Target.aliasChecks t.root) [] t.aliases,
    t.customerChecks,
    Registry.checks "deployment" t.registry,
    d.services.flatMap fun e => Registry.checks (Validation.scopeOf e.2) e.2.registry,
    ⟨!d.services.isEmpty, .emptyDeployment⟩ :: d.services.flatMap fun e => e.2.checks d.volumes,
    along (Route.checks t.root) [] (d.services.map Prod.snd)]

/-- **Assembling looks at the rules in the order of the checks.** -/
theorem Document.assemble_follows (d : Document) (m : RequestMeta) (settings : Settings) :
    Follows (d.assemble m settings) (d.checks m.toTarget) := by
  refine (Validation.follows_domain m.toTarget).bind fun root hdomain => ?_
  obtain ⟨hroot, rfl⟩ := Validation.domain_eq_ok_iff.1 hdomain
  refine (Validation.follows_aliases m.root m.aliases).bind fun _ _ => ?_
  refine (Validation.follows_customer m.toTarget).bind fun _ _ => ?_
  refine (Validation.follows_registry _ m.registry).bind fun _ _ => ?_
  refine (Follows.forM fun e _ => Validation.follows_serviceCredentials e.2).bind fun _ _ => ?_
  refine (Validation.follows_services d).bind fun _ _ => ?_
  exact (Route.follows_route hroot d).bind fun _ _ => Follows.ok _

/-- **Assembling reports the violation that comes first**, and succeeds exactly where every check
passes. -/
theorem Document.assemble_reports_first (d : Document) (m : RequestMeta) (settings : Settings) :
    (∀ v, d.assemble m settings = .error v ↔ ComesFirst (d.checks m.toTarget) v) ∧
      ((∃ D, d.assemble m settings = .ok D) ↔ ∀ c ∈ d.checks m.toTarget, c.passes = true) :=
  ⟨fun _ => (d.assemble_follows m settings).eq_error_iff,
    (d.assemble_follows m settings).exists_eq_ok_iff⟩

end Deployment
