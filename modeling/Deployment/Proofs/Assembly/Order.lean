import Mathlib.Data.List.Perm.Subperm
import Deployment.Proofs.Assembly.Soundness

/-!
# Proofs/Assembly/Order — the order of a listing plays no part

The rules of a deployment are kept when services or aliases are listed in another order, and when
some of the services are left out (`Document.Deployable.part`).  Where a service stands and how it
is reached depends on nothing but the service and the target, so it stays where it was
(`Document.Keyed.assemble_part`).
-/

namespace Deployment

/-- The same data about a request, with other aliases. -/
def RequestMeta.withAliases (m : RequestMeta) (texts : List String) : RequestMeta :=
  { m with aliases := texts }

namespace Document

/-- **A part of a document**: some of its services or all, in any order, with its volumes. -/
structure PartOf (part d : Document) : Prop where
  services : part.services.Subperm d.services
  volumes : part.volumes = d.volumes

/-- **A document whose services stand under their names**, each name once. -/
structure Keyed (d : Document) : Prop where
  keys : ∀ e ∈ d.services, e.2.name = e.1
  nodup : d.names.Nodup

/-! ## The rules -/

theorem nodup_map_of_subperm {α β : Type} {f : α → β} {as bs : List α} (h : as.Subperm bs)
    (hbs : (bs.map f).Nodup) : (as.map f).Nodup := by
  obtain ⟨cs, hperm, hsub⟩ := h
  exact (hperm.map f).nodup_iff.1 (hbs.sublist (hsub.map f))

/-- Some of the services can be routed where all can: fewer names are given away. -/
theorem Routable.part {d part : Document} {root : Hostname} (h : d.Routable root)
    (hpart : part.PartOf d) : part.Routable root where
  named e he := h.named e (hpart.services.subset he)
  apart := nodup_map_of_subperm hpart.services h.apart

/-- **The rules are kept by every part of a document**, and by aliases in another order. -/
theorem Deployable.part {d part : Document} {m : RequestMeta} {texts : List String}
    (h : d.Deployable m.toTarget) (hpart : part.PartOf d) (hne : part.services ≠ [])
    (htexts : texts.Perm m.aliases) : part.Deployable (m.withAliases texts).toTarget := by
  have hnames : (Validation.aliasNames texts).Perm (Validation.aliasNames m.aliases) :=
    htexts.map _
  exact
    { domain := h.domain
      aliases := fun text htext => h.aliases text (htexts.mem_iff.1 htext)
      domain_not_alias := fun hmem => h.domain_not_alias (hnames.mem_iff.1 hmem)
      aliases_nodup := hnames.nodup_iff.2 h.aliases_nodup
      customer := h.customer
      registry := h.registry
      credentials := fun e he => h.credentials e (hpart.services.subset he)
      nonempty := hne
      complete := fun e he => hpart.volumes ▸ h.complete e (hpart.services.subset he)
      routable := h.routable.part hpart }

/-- A part of a document has its services under their names too. -/
theorem Keyed.part {d part : Document} (h : d.Keyed) (hpart : part.PartOf d) : part.Keyed where
  keys e he := h.keys e (hpart.services.subset he)
  nodup := nodup_map_of_subperm hpart.services h.nodup

end Document

/-! ## Services and their endpoints by name

A service and its endpoint depend on the service and the target alone. Where names differ they are
found by name, so the order of the listing does not matter. -/

/-- The endpoint of a service in its place. -/
def Endpoint.ofPlaced (settings : Settings) (root : Hostname) (s : Service) : Endpoint :=
  { service := s.name
    hostname := Route.hostOf root s
    container := settings.projectName root.text ++ "-" ++ s.name
    port := portOf s
    labels := labelsOf settings (settings.projectName root.text) root.text (Route.placed root s) }

/-- Every service in its place has an endpoint, so none is left out. -/
theorem Descriptor.endpoints_ofPlaced (d : Document) (m : RequestMeta) (settings : Settings) :
    (ofPlaced d m settings).endpoints = d.services.map fun e => .ofPlaced settings m.root e.2 := by
  have hservices : (ofPlaced d m settings).endpoints = (ofPlaced d m settings).services.filterMap
      (Endpoint.ofService? settings (settings.projectName m.root.text) m.root.text) := rfl
  have hendpoint (e : String × Service) :
      Endpoint.ofService? settings (settings.projectName m.root.text) m.root.text
        (Route.placed m.root e.2) = some (.ofPlaced settings m.root e.2) := rfl
  rw [hservices, services_ofPlaced, List.filterMap_map, ← List.filterMap_eq_map]
  exact List.filterMap_congr fun e _ => hendpoint e

namespace Document

variable {d : Document} {m : RequestMeta} {settings : Settings}

theorem Keyed.nodup_map_name (h : d.Keyed) : (d.services.map fun e => e.2.name).Nodup := by
  rw [List.map_congr_left h.keys]
  exact h.nodup

/-- **A service of a document is found in its descriptor by its name**, in its place. -/
theorem Keyed.service?_ofPlaced (h : d.Keyed) {e : String × Service} (he : e ∈ d.services) :
    (Descriptor.ofPlaced d m settings).service? e.1 = some (Route.placed m.root e.2) := by
  have hnames : ((Descriptor.ofPlaced d m settings).services.map Service.name).Nodup := by
    rw [Descriptor.services_ofPlaced, List.map_map]
    exact h.nodup_map_name
  refine (Entries.find?_eq_some_iff_of_nodup hnames).2 ⟨?_, h.keys e he⟩
  rw [Descriptor.services_ofPlaced]
  exact List.mem_map.2 ⟨e, he, rfl⟩

/-- **So is its endpoint.** -/
theorem Keyed.endpoint?_ofPlaced (h : d.Keyed) {e : String × Service} (he : e ∈ d.services) :
    (Descriptor.ofPlaced d m settings).endpoint? e.1 = some (.ofPlaced settings m.root e.2) := by
  have hnames : ((Descriptor.ofPlaced d m settings).endpoints.map Endpoint.service).Nodup := by
    rw [Descriptor.endpoints_ofPlaced, List.map_map]
    exact h.nodup_map_name
  refine (Entries.find?_eq_some_iff_of_nodup hnames).2 ⟨?_, h.keys e he⟩
  rw [Descriptor.endpoints_ofPlaced]
  exact List.mem_map.2 ⟨e, he, rfl⟩

end Document

/-! ## Descriptors -/

/-- Whether two descriptors agree on the service with a name: both have it, the same one and with
the same endpoint. -/
def Descriptor.AgreeOn (D E : Descriptor) (name : String) : Prop :=
  (∃ s, D.service? name = some s ∧ E.service? name = some s) ∧
    ∃ e, D.endpoint? name = some e ∧ E.endpoint? name = some e

namespace Document

/-- Whether a document becomes a descriptor does not depend on the order. -/
theorem exists_assemble_of_perm {d d' : Document} {m : RequestMeta} {texts : List String}
    {settings : Settings} (hservices : d'.services.Perm d.services)
    (hvolumes : d'.volumes = d.volumes) (htexts : texts.Perm m.aliases)
    (h : ∃ D, d.assemble m settings = .ok D) :
    ∃ D, d'.assemble (m.withAliases texts) settings = .ok D := by
  obtain ⟨D, hD⟩ := h
  obtain ⟨hrules, -⟩ := assemble_eq_ok_iff.1 hD
  have hne : d'.services ≠ [] := fun hnil =>
    hrules.nonempty (hnil ▸ hservices).nil_eq.symm
  exact ⟨_, assemble_eq_ok_iff.2 ⟨hrules.part ⟨hservices.subperm, hvolumes⟩ hne htexts, rfl⟩⟩

/-- **The order of services and aliases plays no part, and neither do other services**: a part of a
document becomes a descriptor if the document does, and has its services where they were; and one
with the same services in another order does exactly if the document does. -/
theorem Keyed.assemble_part {d part : Document} {m : RequestMeta} {texts : List String}
    {settings : Settings} (hd : d.Keyed) (hpart : part.PartOf d) (htexts : texts.Perm m.aliases) :
    (part.services ≠ [] → ∀ D, d.assemble m settings = .ok D →
      ∃ E, part.assemble (m.withAliases texts) settings = .ok E ∧
        E.services.map Service.name = part.names ∧ ∀ name ∈ part.names, E.AgreeOn D name) ∧
      (part.services.Perm d.services →
        ((∃ E, part.assemble (m.withAliases texts) settings = .ok E) ↔
          ∃ D, d.assemble m settings = .ok D)) := by
  refine ⟨fun hne D hD => ?_, fun hperm => ⟨?_, exists_assemble_of_perm hperm hpart.volumes htexts⟩⟩
  · obtain ⟨hrules, rfl⟩ := assemble_eq_ok_iff.1 hD
    have hkeyed := hd.part hpart
    refine ⟨_, assemble_eq_ok_iff.2 ⟨hrules.part hpart hne htexts, rfl⟩, ?_, fun name hname => ?_⟩
    · rw [Descriptor.services_ofPlaced, List.map_map]
      exact List.map_congr_left hkeyed.keys
    · obtain ⟨e, he, rfl⟩ := List.mem_map.1 hname
      have he' := hpart.services.subset he
      exact ⟨⟨_, hkeyed.service?_ofPlaced he, hd.service?_ofPlaced he'⟩,
        ⟨_, hkeyed.endpoint?_ofPlaced he, hd.endpoint?_ofPlaced he'⟩⟩
  · exact exists_assemble_of_perm (m := m.withAliases texts) hperm.symm hpart.volumes.symm
      htexts.symm

/-- The services of `webAndApi`, the last one first. -/
def apiAndWeb : Document := { webAndApi with services := webAndApi.services.reverse }

theorem assemble_apiAndWeb :
    webAndApi.Keyed ∧ apiAndWeb.PartOf webAndApi ∧
      ["shop.example.com", "WWW.example.com"].Perm ["WWW.example.com", "shop.example.com"] ∧
      ∃ D E, webAndApi.assemble
          (RequestMeta.webAndApi.withAliases ["WWW.example.com", "shop.example.com"]) {} = .ok D ∧
        apiAndWeb.assemble
          (RequestMeta.webAndApi.withAliases ["shop.example.com", "WWW.example.com"]) {} = .ok E ∧
        E.services.map Service.name = ["api", "web"] ∧ E.AgreeOn D "web" ∧ E.AgreeOn D "api" := by
  have hkeyed : webAndApi.Keyed := ⟨by decide, by decide⟩
  have hpart : apiAndWeb.PartOf webAndApi := ⟨(List.reverse_perm _).subperm, rfl⟩
  have htexts : ["shop.example.com", "WWW.example.com"].Perm
      ["WWW.example.com", "shop.example.com"] := List.Perm.swap _ _ _
  obtain ⟨D, hD⟩ := Outcome.exists_of_isOk (x := webAndApi.assemble
    (RequestMeta.webAndApi.withAliases ["WWW.example.com", "shop.example.com"]) {})
    (by decide +kernel)
  obtain ⟨E, hE, hnames, hagree⟩ := (hkeyed.assemble_part hpart htexts).1 (by decide) D hD
  exact ⟨hkeyed, hpart, htexts, D, E, hD, hE, hnames, hagree "web" (by decide),
    hagree "api" (by decide)⟩

end Document

end Deployment
