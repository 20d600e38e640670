import Deployment.Proofs.Hostname.Fragment
import Deployment.Validation

/-!
# Proofs/Validation — what the rules of deployments demand

Each check succeeds exactly where its rule holds.  The rules are stated without the order in which
they are looked at: aliases are compared as a whole (`aliases_eq_ok_iff`), and what is demanded of
the services is demanded of each (`services_eq_ok_iff`).
-/

namespace Deployment.Validation

open Hostname (canonicalText)

/-! ## Names

A name is put into its canonical form before it is checked and before it is compared, so what is
required is said of the canonical form. -/

/-- The root domain is canonical and follows the grammar. -/
theorem domain_eq_ok_iff {text : String} {h : Hostname} :
    domain text = .ok h ↔ Hostname.Grammar (canonicalText text) ∧ h = ⟨canonicalText text⟩ := by
  rw [domain, Outcome.mapError_eq_ok, Hostname.canonical_eq_ok_iff]

/-- **An alias is taken when it is a host name, not the domain and not there already.** -/
theorem aliasName_eq_ok_iff {root : Hostname} {earlier : List Hostname} {text : String}
    {h : Hostname} :
    aliasName root earlier text = .ok h ↔
      (Hostname.Grammar (canonicalText text) ∧ (⟨canonicalText text⟩ : Hostname) ≠ root ∧
        (⟨canonicalText text⟩ : Hostname) ∉ earlier) ∧ ⟨canonicalText text⟩ = h := by
  rw [aliasName]
  cases hc : Hostname.canonical text with
  | error e =>
    refine ⟨nofun, fun hall => ?_⟩
    exact nomatch hc.symm.trans (Hostname.canonical_eq_ok_iff.2 ⟨hall.1.1, rfl⟩)
  | ok c =>
    obtain ⟨hg, rfl⟩ := Hostname.canonical_eq_ok_iff.1 hc
    simp only [Outcome.guard_eq_ok, Outcome.pure_eq_ok]
    constructor
    · rintro ⟨hne, hnot, heq⟩
      exact ⟨⟨hg, hne, hnot⟩, heq⟩
    · rintro ⟨⟨-, hne, hnot⟩, heq⟩
      exact ⟨hne, hnot, heq⟩

/-- What aliases become: one name for each, in their order. -/
def aliasNames (texts : List String) : List Hostname := texts.map fun text => ⟨canonicalText text⟩

/-- Each alias differs from the root and from every alias before it. -/
theorem aliasesAfter_eq_ok_iff {root : Hostname} {earlier : List Hostname} {texts : List String}
    {hs : List Hostname} :
    aliasesAfter root earlier texts = .ok hs ↔
      (∀ text ∈ texts, Hostname.Grammar (canonicalText text) ∧
        (⟨canonicalText text⟩ : Hostname) ≠ root ∧ (⟨canonicalText text⟩ : Hostname) ∉ earlier) ∧
        (aliasNames texts).Nodup ∧ hs = aliasNames texts := by
  induction texts generalizing earlier hs with
  | nil =>
    exact Outcome.pure_eq_ok.trans
      ⟨fun h => ⟨nofun, List.nodup_nil, h.symm⟩, fun h => h.2.2.symm⟩
  | cons text texts ih =>
    rw [aliasesAfter, Outcome.bind_eq_ok, List.forall_mem_cons, aliasNames, List.map_cons,
      ← aliasNames, List.nodup_cons]
    simp only [aliasName_eq_ok_iff, Outcome.bind_eq_ok, Outcome.pure_eq_ok, ih, List.mem_cons,
      not_or]
    constructor
    · rintro ⟨_, ⟨hfirst, rfl⟩, _, ⟨hrest, hnodup, rfl⟩, rfl⟩
      refine ⟨⟨hfirst, fun t ht => ⟨(hrest t ht).1, (hrest t ht).2.1, (hrest t ht).2.2.2⟩⟩,
        ⟨fun hmem => ?_, hnodup⟩, rfl⟩
      obtain ⟨t, ht, heq⟩ := List.mem_map.1 hmem
      exact (hrest t ht).2.2.1 heq
    · rintro ⟨⟨hfirst, hrest⟩, ⟨hnot, hnodup⟩, rfl⟩
      refine ⟨_, ⟨hfirst, rfl⟩, _, ⟨fun t ht => ?_, hnodup, rfl⟩, rfl⟩
      exact ⟨(hrest t ht).1, (hrest t ht).2.1,
        fun heq => hnot (List.mem_map.2 ⟨t, ht, heq⟩), (hrest t ht).2.2⟩

/-- **Aliases are taken when each is a host name other than the domain, and no two are one.** -/
theorem aliases_eq_ok_iff {root : Hostname} {texts : List String} {hs : List Hostname} :
    aliases root texts = .ok hs ↔
      (∀ text ∈ texts, Hostname.Grammar (canonicalText text)) ∧ root ∉ aliasNames texts ∧
        (aliasNames texts).Nodup ∧ hs = aliasNames texts := by
  rw [aliases, aliasesAfter_eq_ok_iff]
  constructor
  · rintro ⟨hall, hrest⟩
    refine ⟨fun t ht => (hall t ht).1, fun hmem => ?_, hrest⟩
    obtain ⟨t, ht, heq⟩ := List.mem_map.1 hmem
    exact (hall t ht).2.1 heq
  · rintro ⟨hall, hroot, hrest⟩
    exact ⟨fun t ht => ⟨hall t ht, fun heq => hroot (List.mem_map.2 ⟨t, ht, heq⟩), by simp⟩, hrest⟩

/-! ## Owner and credentials -/

theorem customer_eq_ok_iff {id : String} : customer id = .ok () ↔ ¬ Text.isBlankText id = true := by
  rw [customer, Outcome.guard_eq_ok]
  exact and_iff_left rfl

/-- Credentials are given with all of their fields. -/
theorem credentials_eq_ok_iff {scope : String} {r : Registry} :
    credentials scope r = .ok () ↔ r.missing? = none := by
  rw [credentials]
  cases r.missing? with
  | none => exact ⟨fun _ => rfl, fun _ => rfl⟩
  | some missing => exact ⟨nofun, nofun⟩

theorem serviceCredentials_eq_ok_iff {s : Service} :
    serviceCredentials s = .ok () ↔ ∀ r, s.registry = some r → r.missing? = none := by
  rw [serviceCredentials]
  cases s.registry with
  | none => exact ⟨fun _ => nofun, fun _ => rfl⟩
  | some r => simp [credentials_eq_ok_iff]

theorem allCredentials_eq_ok_iff {d : Document} :
    allCredentials d = .ok () ↔
      ∀ e ∈ d.services, ∀ r, e.2.registry = some r → r.missing? = none := by
  rw [allCredentials, Outcome.forM_eq_ok]
  simp only [serviceCredentials_eq_ok_iff]

/-! ## Images and volumes

The services are checked in their order and each entry by entry. For acceptance the order does not
matter. -/

/-- **What a service is made of is there**: it has an image, and the volumes that it names are
declared. -/
structure Complete (declared : NameSet) (s : Service) : Prop where
  image : ¬ Text.isBlankText s.image = true
  volumes : ∀ entry ∈ s.volumes, ∀ name, VolumeSource.ofEntry entry = .named name → name ∈ declared

/-- Only a named volume must be declared. -/
theorem volume_eq_ok_iff {declared : NameSet} {s : Service} {entry : String} :
    volume declared s entry = .ok () ↔
      ∀ name, VolumeSource.ofEntry entry = .named name → name ∈ declared := by
  rw [volume]
  cases VolumeSource.ofEntry entry with
  | named name =>
    by_cases hname : name ∈ declared
    · simp [hname]
    · simp [hname]
  | bind path => exact ⟨fun _ _ => nofun, fun _ => rfl⟩
  | anonymous => exact ⟨fun _ _ => nofun, fun _ => rfl⟩

/-- **A service is accepted when it is complete.** -/
theorem service_eq_ok_iff {declared : NameSet} {s : Service} :
    service declared s = .ok () ↔ Complete declared s := by
  rw [service, Outcome.check_bind_eq_ok, image, Outcome.guard_eq_ok, volumes, Outcome.forM_eq_ok]
  simp only [volume_eq_ok_iff]
  exact ⟨fun h => ⟨h.1.1, h.2⟩, fun h => ⟨⟨h.image, rfl⟩, h.volumes⟩⟩

/-- There is a service, and all of them are complete. -/
theorem services_eq_ok_iff {d : Document} :
    services d = .ok () ↔ d.services ≠ [] ∧ ∀ e ∈ d.services, Complete d.volumes e.2 := by
  rw [services, Outcome.guard_eq_ok, Outcome.forM_eq_ok, List.isEmpty_iff]
  simp only [service_eq_ok_iff]

end Deployment.Validation
