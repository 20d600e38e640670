import Deployment.Assembly
import Deployment.Proofs.Route
import Deployment.Proofs.Validation

/-!
# Proofs/Assembly/Deployable — which documents become descriptors

`Document.Deployable` gathers the rules of a deployment, none of which depends on an order.
`assemble_eq_ok_iff`: a document becomes a descriptor exactly when they hold, and the descriptor is
then the one of its services in their places.
-/

namespace Deployment

/-- The domain of a target. -/
def Target.root (t : Target) : Hostname := ⟨Hostname.canonicalText t.domain⟩

/-- **The rules of a deployment.** -/
structure Document.Deployable (d : Document) (t : Target) : Prop where
  domain : Hostname.Grammar t.root.text
  aliases : ∀ text ∈ t.aliases, Hostname.Grammar (Hostname.canonicalText text)
  domain_not_alias : t.root ∉ Validation.aliasNames t.aliases
  aliases_nodup : (Validation.aliasNames t.aliases).Nodup
  customer : ¬ Text.isBlankText t.customer = true
  registry : ∀ r, t.registry = some r → r.missing? = none
  credentials : ∀ e ∈ d.services, ∀ r, e.2.registry = some r → r.missing? = none
  nonempty : d.services ≠ []
  complete : ∀ e ∈ d.services, Validation.Complete d.volumes e.2
  routable : d.Routable t.root

/-- The descriptor of a document whose services stand in their places. -/
def Descriptor.ofPlaced (d : Document) (m : RequestMeta) (settings : Settings) : Descriptor :=
  .ofRouted (d.placed m.root) m.root (Validation.aliasNames m.aliases) m settings

/-- Credentials that are not there are complete. -/
theorem registry_forM_eq_ok_iff {r? : Option Registry} {scope : String} :
    r?.forM (Validation.credentials scope) = .ok () ↔ ∀ r, r? = some r → r.missing? = none := by
  cases r? with
  | none => exact ⟨fun _ => nofun, fun _ => rfl⟩
  | some r => simp [Option.forM, Validation.credentials_eq_ok_iff]

/-- **A document becomes a descriptor exactly when the rules hold.** -/
theorem Document.assemble_eq_ok_iff {d : Document} {m : RequestMeta} {settings : Settings}
    {D : Descriptor} :
    d.assemble m settings = .ok D ↔ d.Deployable m.toTarget ∧ D = .ofPlaced d m settings := by
  simp only [assemble, ↓Outcome.check_bind_eq_ok, Outcome.bind_eq_ok, Outcome.pure_eq_ok,
    Validation.domain_eq_ok_iff, Validation.aliases_eq_ok_iff, Validation.customer_eq_ok_iff,
    registry_forM_eq_ok_iff, Validation.allCredentials_eq_ok_iff, Validation.services_eq_ok_iff]
  constructor
  · rintro ⟨_, ⟨hdomain, rfl⟩, _, ⟨haliases, hnot, hnodup, rfl⟩, hcustomer, hregistry, hcredentials,
      ⟨hne, hcomplete⟩, routed, hroute, rfl⟩
    obtain ⟨hroutable, rfl⟩ := (route_eq_ok_iff hdomain).1 hroute
    exact ⟨⟨hdomain, haliases, hnot, hnodup, hcustomer, hregistry, hcredentials, hne, hcomplete,
      hroutable⟩, rfl⟩
  · rintro ⟨h, rfl⟩
    exact ⟨_, ⟨h.domain, rfl⟩, _, ⟨h.aliases, h.domain_not_alias, h.aliases_nodup, rfl⟩, h.customer,
      h.registry, h.credentials, ⟨h.nonempty, h.complete⟩, _,
      (route_eq_ok_iff h.domain).2 ⟨h.routable, rfl⟩, rfl⟩

end Deployment
