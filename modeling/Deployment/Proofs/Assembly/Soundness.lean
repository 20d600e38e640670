import Deployment.Proofs.Assembly.Deployable
import Deployment.Proofs.Entries

/-!
# Proofs/Assembly/Soundness — what every descriptor promises

Who reads a descriptor does not check it again.  `Descriptor.Sound` lists what may be relied on:
names that keep the rules, services as the document has them, host names that are pairwise
different, images and declared volumes.  `Document.sound_of_assemble`: whatever document and request
a descriptor was made of, it promises all of it.
-/

namespace Deployment

/-! ## Services under a domain

Routing changes two fields of a service, and both are told by its fragment and the domain. -/

/-- Whether a name has no letter in upper case. -/
def Hostname.IsLower (h : Hostname) : Prop := ∀ c ∈ h.text.toList, c.isUpper = false

namespace Service

/-- A service without its route. -/
def unrouted (s : Service) : Service := { s with subdomain := none, hostname := none }

/-- **The route of a service**: a reserved fragment addresses the domain itself, and every other
one makes the name in front of the domain. -/
structure Stands (domain : Hostname) (fragment : String) (host : Hostname) : Prop where
  fragment_valid : Fragment.Grammar fragment
  host_valid : Hostname.Grammar host.text
  root_iff : host = domain ↔ fragment = "main" ∨ fragment = "app"
  under : host ≠ domain → host.text = fragment ++ "." ++ domain.text

/-- Whether a service has a route under a domain. -/
def IsRouted (domain : Hostname) (s : Service) : Prop :=
  ∃ fragment host, s.subdomain = some fragment ∧ s.hostname = some host ∧
    Stands domain fragment host

end Service

namespace Route

/-- A place is a fragment and a host name, and nothing else. -/
theorem unrouted_placed (root : Hostname) (s : Service) :
    (placed root s).unrouted = s.unrouted := rfl

/-- **A service whose name keeps the rules has a route.** -/
theorem Named.stands {root : Hostname} {s : Service} (h : Named root s) :
    Service.Stands root (fragmentText s) (hostOf root s) where
  fragment_valid := h.fragment
  host_valid := h.name
  root_iff := hostOf_eq_root_iff.trans Fragment.isRoot_iff
  under := by
    intro hne
    have hs : ¬ asksRoot s = true := fun hs => hne (hostOf_of_asksRoot hs)
    rw [hostOf_of_not_asksRoot hs, Hostname.under]

end Route

/-! ## Descriptors -/

/-- **What a descriptor promises** of the document and the target that it was made of. -/
structure Descriptor.Sound (D : Descriptor) (d : Document) (t : Target) : Prop where
  domain_valid : Hostname.Grammar D.domain.text
  domain_lower : D.domain.IsLower
  domain_canonical : Hostname.canonical t.domain = .ok D.domain
  aliases_valid : ∀ h ∈ D.aliases, Hostname.Grammar h.text
  aliases_lower : ∀ h ∈ D.aliases, h.IsLower
  aliases_nodup : D.aliases.Nodup
  domain_not_alias : D.domain ∉ D.aliases
  aliases_canonical : t.aliases.map Hostname.canonical = D.aliases.map .ok
  /-- The services are those of the document, in its order and but for their routes. -/
  services_kept : D.services.map Service.unrouted = d.services.map fun e => e.2.unrouted
  routed : ∀ s ∈ D.services, s.IsRouted D.domain
  hostnames_nodup : (D.services.map Service.hostname).Nodup
  /-- The service on the root domain is found, whichever it is, and no other one is there. -/
  root_iff : ∀ s, D.rootService? = some s ↔ s ∈ D.services ∧ s.hostname = some D.domain
  images : ∀ s ∈ D.services, ¬ Text.isBlankText s.image = true
  volumes_declared : ∀ s ∈ D.services, ∀ entry ∈ s.volumes, ∀ name,
    VolumeSource.ofEntry entry = .named name → name ∈ D.volumes
  volumes_kept : D.volumes = d.volumes

/-- The services of a descriptor are those of the document, each in its place. -/
theorem Descriptor.services_ofPlaced (d : Document) (m : RequestMeta) (settings : Settings) :
    (ofPlaced d m settings).services = d.services.map fun e => Route.placed m.root e.2 := by
  rw [ofPlaced, ofRouted, Document.placed, List.map_map]
  rfl

/-- No letter of a canonical text is in upper case. -/
theorem Hostname.isLower_canonicalText (s : String) : IsLower ⟨canonicalText s⟩ :=
  fun _ hc => isUpper_of_mem_canonicalText hc

theorem Validation.mem_aliasNames {texts : List String} {h : Hostname} :
    h ∈ aliasNames texts ↔ ∃ text ∈ texts, ⟨Hostname.canonicalText text⟩ = h := List.mem_map

/-- **Where host names differ, the service on the root domain is the one that is found.** -/
theorem Descriptor.rootService?_eq_some_iff {D : Descriptor}
    (hnodup : (D.services.map Service.hostname).Nodup) {s : Service} :
    D.rootService? = some s ↔ s ∈ D.services ∧ s.hostname = some D.domain :=
  Entries.find?_eq_some_iff_of_nodup hnodup

/-- The host names of a descriptor differ, as the places of its services do. -/
theorem Document.Routable.nodup_hostnames {d : Document} {m : RequestMeta} (settings : Settings)
    (h : d.Routable m.root) :
    ((Descriptor.ofPlaced d m settings).services.map Service.hostname).Nodup := by
  have hsome : (Descriptor.ofPlaced d m settings).services.map Service.hostname =
      (d.services.map fun e => Route.hostOf m.root e.2).map some := by
    rw [Descriptor.services_ofPlaced, List.map_map, List.map_map]
    rfl
  rw [hsome]
  exact h.apart.map fun _ _ => Option.some.inj

/-- **The promises follow from the rules.** -/
theorem Document.Deployable.sound {d : Document} {m : RequestMeta} {settings : Settings}
    (h : d.Deployable m.toTarget) : (Descriptor.ofPlaced d m settings).Sound d m.toTarget := by
  have hservices := Descriptor.services_ofPlaced d m settings
  -- that the names differ is used twice: it is a promise, and it makes the root service unique
  have hnodup := h.routable.nodup_hostnames settings
  exact
    { domain_valid := h.domain
      domain_lower := Hostname.isLower_canonicalText _
      domain_canonical := Hostname.canonical_eq_ok_iff.2 ⟨h.domain, rfl⟩
      aliases_valid := by
        intro a ha
        obtain ⟨text, htext, rfl⟩ := Validation.mem_aliasNames.1 ha
        exact h.aliases text htext
      aliases_lower := by
        intro a ha
        obtain ⟨text, -, rfl⟩ := Validation.mem_aliasNames.1 ha
        exact Hostname.isLower_canonicalText text
      aliases_nodup := h.aliases_nodup
      domain_not_alias := h.domain_not_alias
      aliases_canonical := by
        change m.aliases.map Hostname.canonical = (Validation.aliasNames m.aliases).map .ok
        rw [Validation.aliasNames, List.map_map]
        exact List.map_congr_left fun text htext =>
          Hostname.canonical_eq_ok_iff.2 ⟨h.aliases text htext, rfl⟩
      services_kept := by
        rw [hservices, List.map_map]
        exact List.map_congr_left fun e _ => Route.unrouted_placed m.root e.2
      routed := by
        intro s hs
        rw [hservices] at hs
        obtain ⟨e, he, rfl⟩ := List.mem_map.1 hs
        exact ⟨_, _, rfl, rfl, (h.routable.named e he).stands⟩
      hostnames_nodup := hnodup
      root_iff := fun _ => Descriptor.rootService?_eq_some_iff hnodup
      images := by
        intro s hs
        rw [hservices] at hs
        obtain ⟨e, he, rfl⟩ := List.mem_map.1 hs
        exact (h.complete e he).image
      volumes_declared := by
        intro s hs entry hentry name hname
        rw [hservices] at hs
        obtain ⟨e, he, rfl⟩ := List.mem_map.1 hs
        exact (h.complete e he).volumes entry hentry name hname
      volumes_kept := rfl }

/-- **Every descriptor keeps the promises.** -/
theorem Document.sound_of_assemble {d : Document} {m : RequestMeta} {settings : Settings}
    {D : Descriptor} (h : d.assemble m settings = .ok D) : D.Sound d m.toTarget := by
  obtain ⟨hrules, rfl⟩ := assemble_eq_ok_iff.1 h
  exact hrules.sound

/-- A document whose descriptor has one service on the root domain and one beside it. -/
def Document.webAndApi : Document where
  services := [
    ("web", {
      name := "web", image := "nginx", subdomain := some "Main", volumes := ["data:/var"] }),
    ("api", { name := "api", image := "api:2", ports := [8080] })]
  volumes := .ofList ["data"]

/-- A request for it. -/
def RequestMeta.webAndApi : RequestMeta where
  domain := "Example.com"
  aliases := ["WWW.example.com"]
  customer := "c-1"
  context := default

theorem Document.sound_webAndApi :
    (∃ D, webAndApi.assemble .webAndApi {} = .ok D ∧
      D.Sound webAndApi RequestMeta.webAndApi.toTarget ∧ D.volumes.names = ["data"] ∧
      D.services.map (fun s => (s.name, s.volumes)) = [("web", ["data:/var"]), ("api", [])]) ∧
    ({ webAndApi with volumes := .ofList ["logs"] } : Document).assemble .webAndApi {} =
      .error (.undeclaredVolume "web" "data") := by
  obtain ⟨D, hD⟩ := Outcome.exists_of_isOk (x := webAndApi.assemble .webAndApi {})
    (by decide +kernel)
  have hsound := sound_of_assemble hD
  refine ⟨⟨D, hD, hsound, ?_, ?_⟩, rfl⟩
  · rw [hsound.volumes_kept]
    rfl
  · have hunrouted : D.services.map (fun s => (s.name, s.volumes)) =
        (D.services.map Service.unrouted).map fun s => (s.name, s.volumes) := by
      rw [List.map_map]
      rfl
    rw [hunrouted, hsound.services_kept]
    rfl

end Deployment
