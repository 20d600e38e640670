import Deployment.Proofs.Assembly.Soundness

/-!
# Proofs/Assembly/HostNames — which host names a deployment claims twice

The aliases of a descriptor are different names, the host names of its services are, and neither has
the domain a second time.  Aliases are not compared with services, though: all names that a
descriptor claims are different exactly when no service stands under an alias
(`Document.hostNames_of_assemble`), and one may (`Document.hostNames_apiBehindAlias`).
-/

namespace Deployment

namespace Descriptor

/-- The host names of the services that do not stand on the root domain. -/
def serviceHosts (D : Descriptor) : List Hostname :=
  (D.services.filterMap Service.hostname).filter (· ≠ D.domain)

/-- **The host names that a descriptor claims.** -/
def hostNames (D : Descriptor) : List Hostname := D.domain :: (D.aliases ++ D.serviceHosts)

/-- The hosts of services are those that are not the domain. -/
theorem mem_serviceHosts_iff {D : Descriptor} {h : Hostname} :
    h ∈ D.serviceHosts ↔ (∃ s ∈ D.services, s.hostname = some h) ∧ h ≠ D.domain := by
  rw [serviceHosts, List.mem_filter, List.mem_filterMap, decide_eq_true_iff]

theorem domain_not_mem_serviceHosts (D : Descriptor) : D.domain ∉ D.serviceHosts :=
  fun h => (mem_serviceHosts_iff.1 h).2 rfl

/-- **Aliases and services that are apart among themselves are all apart if no service stands under
an alias.** -/
theorem nodup_hostNames_iff {D : Descriptor} (hdomain : D.domain ∉ D.aliases)
    (haliases : D.aliases.Nodup) (hservices : D.serviceHosts.Nodup) :
    D.hostNames.Nodup ↔ ∀ a ∈ D.aliases, ∀ s ∈ D.services, s.hostname ≠ some a := by
  rw [hostNames, List.nodup_cons, List.nodup_append]
  constructor
  · rintro ⟨-, -, -, hapart⟩ a ha s hs heq
    have hne : a ≠ D.domain := fun hroot => hdomain (hroot ▸ ha)
    exact hapart a ha a (mem_serviceHosts_iff.2 ⟨⟨s, hs, heq⟩, hne⟩) rfl
  · intro hapart
    have hnot : D.domain ∉ D.aliases ++ D.serviceHosts := by
      rw [List.mem_append, not_or]
      exact ⟨hdomain, D.domain_not_mem_serviceHosts⟩
    refine ⟨hnot, haliases, hservices, ?_⟩
    rintro a ha _ hb rfl
    obtain ⟨⟨s, hs, heq⟩, -⟩ := mem_serviceHosts_iff.1 hb
    exact hapart a ha s hs heq

theorem serviceHosts_ofPlaced (d : Document) (m : RequestMeta) (settings : Settings) :
    (ofPlaced d m settings).serviceHosts =
      (d.services.map fun e => Route.hostOf m.root e.2).filter (· ≠ m.root) := by
  have hhosts : (ofPlaced d m settings).services.filterMap Service.hostname =
      d.services.map fun e => Route.hostOf m.root e.2 := by
    rw [services_ofPlaced, List.filterMap_map]
    exact congrFun List.filterMap_eq_map d.services
  rw [serviceHosts, hhosts]
  rfl

end Descriptor

/-- **The names that a descriptor claims are different unless a service stands under an alias.** -/
theorem Document.hostNames_of_assemble {d : Document} {m : RequestMeta} {settings : Settings}
    {D : Descriptor} (h : d.assemble m settings = .ok D) :
    D.domain ∉ D.aliases ++ D.serviceHosts ∧ D.aliases.Nodup ∧ D.serviceHosts.Nodup ∧
      (D.hostNames.Nodup ↔ ∀ a ∈ D.aliases, ∀ s ∈ D.services, s.hostname ≠ some a) := by
  obtain ⟨hrules, rfl⟩ := assemble_eq_ok_iff.1 h
  have hservices : (Descriptor.ofPlaced d m settings).serviceHosts.Nodup := by
    rw [Descriptor.serviceHosts_ofPlaced]
    exact hrules.routable.apart.filter _
  refine ⟨?_, hrules.aliases_nodup, hservices, ?_⟩
  · rw [List.mem_append, not_or]
    exact ⟨hrules.domain_not_alias, Descriptor.domain_not_mem_serviceHosts _⟩
  · exact Descriptor.nodup_hostNames_iff hrules.domain_not_alias hrules.aliases_nodup hservices

/-- A document with a service that stands under its name. -/
def Document.api : Document where
  services := [("api", { name := "api", image := "api:2" })]

/-- A request for it with one alias. -/
def RequestMeta.withAlias (name : String) : RequestMeta where
  domain := "example.com"
  aliases := [name]
  customer := "c-1"
  context := default

theorem Document.hostNames_apiAndAlias :
    ∃ D, api.assemble (.withAlias "www.example.com") {} = .ok D ∧ D.hostNames.Nodup := by
  obtain ⟨D, hD⟩ := Outcome.exists_of_isOk (x := api.assemble (.withAlias "www.example.com") {})
    (by decide +kernel)
  have hapart := (hostNames_of_assemble hD).2.2.2
  obtain ⟨-, rfl⟩ := assemble_eq_ok_iff.1 hD
  exact ⟨_, hD, hapart.2 (by decide +kernel)⟩

/-- **A service may stand under an alias.** -/
theorem Document.hostNames_apiBehindAlias :
    ∃ D, api.assemble (.withAlias "api.example.com") {} = .ok D ∧ ¬ D.hostNames.Nodup := by
  obtain ⟨D, hD⟩ := Outcome.exists_of_isOk (x := api.assemble (.withAlias "api.example.com") {})
    (by decide +kernel)
  obtain ⟨-, rfl⟩ := assemble_eq_ok_iff.1 hD
  exact ⟨_, hD, by decide +kernel⟩

end Deployment
