import Deployment.Compilation
import Deployment.Proofs.Assembly.Order
import Deployment.Proofs.Document

/-!
# Proofs/Assembly/Endpoints — every service has its endpoint

A descriptor that was compiled of a manifest, an archetype or a template has an endpoint for each of
its services, in their order.  `Endpoint.Serves` says what an endpoint has of its service, and
`Descriptor.Reachable` that every service has its own, is found by its name, and shares its
container with no other one.  It holds of whatever was compiled (`Descriptor.Compiled.reachable`).
-/

namespace Deployment

/-! ## Ports -/

/-- **The port that a service is reached at**: that of its label, or its first one, or 80. -/
inductive Service.Listens (s : Service) : Nat → Prop
  | label {p : Nat} : s.labelPort? = some p → Listens s p
  | first {p : Nat} {ps : List Nat} : s.labelPort? = none → s.ports = p :: ps → Listens s p
  | fallback : s.labelPort? = none → s.ports = [] → Listens s 80

namespace Endpoint

/-- The port that is computed is the one that the service is reached at. -/
theorem listens_portOf (s : Service) : s.Listens (portOf s) := by
  rw [portOf]
  cases hlabel : s.labelPort? with
  | some p => exact .label hlabel
  | none =>
    cases hports : s.ports with
    | nil => exact .fallback hlabel hports
    | cons p ps => exact .first hlabel hports

theorem labelPort?_range {s : Service} {p : Nat} (h : s.labelPort? = some p) :
    1 ≤ p ∧ p ≤ 65535 := by
  obtain ⟨text, -, hport⟩ := Option.bind_eq_some_iff.1 h
  have hrange := Manifest.portOfText?_range hport
  omega

/-- **The port of a service whose own ports are in their range is in it.** -/
theorem port_range {s : Service} (hports : ∀ p ∈ s.ports, 0 < p ∧ p < 65536) {p : Nat}
    (h : s.Listens p) : 1 ≤ p ∧ p ≤ 65535 := by
  cases h with
  | label hlabel => exact labelPort?_range hlabel
  | first _ hfirst =>
    have hrange := hports p (hfirst ▸ List.mem_cons_self)
    omega
  | fallback => decide

/-! ## Labels

The names of the labels begin with a prefix of the settings, which may be any text. It is the same
for all four, so they stay different. -/

/-- The names of the labels of an endpoint. -/
def labelNames : List String := ["project", "domain", "subdomain", "port"]

/-- The label with a name, under the settings. -/
def labelKey (settings : Settings) (name : String) : String := settings.projectPrefix ++ "." ++ name

theorem labelKey_injective (settings : Settings) : Function.Injective (labelKey settings) :=
  fun _ _ => (String.append_right_inj _).1

/-- **An endpoint has four labels**, whatever their names begin with. -/
theorem entries_labelsOf (settings : Settings) (project domain : String) (s : Service) :
    (labelsOf settings project domain s).entries = [
      (labelKey settings "project", project),
      (labelKey settings "domain", domain),
      (labelKey settings "subdomain", s.subdomain.getD ""),
      (labelKey settings "port", Text.natText (portOf s))] := by
  have hkeys : (labelNames.map (labelKey settings)).Nodup :=
    List.Nodup.map (labelKey_injective settings) (by decide)
  exact TextMap.entries_ofList_of_nodup hkeys

/-- **What an endpoint has of its service**, in a descriptor with a domain and a project. -/
structure Serves (settings : Settings) (D : Descriptor) (s : Service) (e : Endpoint) : Prop where
  service : e.service = s.name
  hostname : s.hostname = some e.hostname
  container : e.container = D.project ++ "-" ++ s.name
  port : s.Listens e.port
  port_range : 1 ≤ e.port ∧ e.port ≤ 65535
  labels : ∃ fragment, s.subdomain = some fragment ∧ e.labels.entries = [
    (labelKey settings "project", D.project),
    (labelKey settings "domain", D.domain.text),
    (labelKey settings "subdomain", fragment),
    (labelKey settings "port", Text.natText e.port)]

end Endpoint

/-- What was read or compiled stands under its names. -/
theorem Document.Normal.keyed {d : Document} (h : d.Normal) : d.Keyed := ⟨h.keys, h.names_nodup⟩

/-! ## Descriptors

An endpoint is made only of a service that has a host name. Routing gives every service one, so no
endpoint is missing, and the endpoints stand in the order of the services. -/

namespace Descriptor

/-- **Every service of a descriptor can be reached**: it has an endpoint at its place, with a
container of its own, and both are found by its name. -/
structure Reachable (settings : Settings) (D : Descriptor) : Prop where
  project : D.project = settings.projectName D.domain.text
  serves : List.Forall₂ (Endpoint.Serves settings D) D.services D.endpoints
  containers_nodup : (D.endpoints.map Endpoint.container).Nodup
  found : ∀ se ∈ D.services.zip D.endpoints,
    D.service? se.1.name = some se.1 ∧ D.endpoint? se.1.name = some se.2

/-- The endpoint of a service in its place serves it. -/
theorem serves_ofPlaced {d : Document} {m : RequestMeta} {settings : Settings} {s : Service}
    (hports : ∀ p ∈ s.ports, 0 < p ∧ p < 65536) :
    Endpoint.Serves settings (ofPlaced d m settings) (Route.placed m.root s)
      (.ofPlaced settings m.root s) where
  service := rfl
  hostname := rfl
  container := rfl
  port := Endpoint.listens_portOf (Route.placed m.root s)
  port_range := Endpoint.port_range hports (Endpoint.listens_portOf s)
  labels := ⟨_, rfl, Endpoint.entries_labelsOf _ _ _ _⟩

/-- **A document in the normal form has a descriptor whose services can all be reached.** -/
theorem reachable_ofPlaced {d : Document} (h : d.Normal) (m : RequestMeta) (settings : Settings) :
    (ofPlaced d m settings).Reachable settings where
  project := rfl
  serves := by
    rw [services_ofPlaced, endpoints_ofPlaced, List.forall₂_map_left_iff,
      List.forall₂_map_right_iff, List.forall₂_same]
    exact fun e he => serves_ofPlaced (h.services e he).ports
  containers_nodup := by
    have hcontainers : (ofPlaced d m settings).endpoints.map Endpoint.container =
        (d.services.map fun e => e.2.name).map ((ofPlaced d m settings).project ++ "-" ++ ·) := by
      rw [endpoints_ofPlaced, List.map_map, List.map_map]
      rfl
    rw [hcontainers]
    exact h.keyed.nodup_map_name.map fun _ _ => (String.append_right_inj _).1
  found := by
    rw [services_ofPlaced, endpoints_ofPlaced]
    intro se hse
    obtain ⟨e, he, rfl⟩ : ∃ e ∈ d.services,
        (Route.placed m.root e.2, Endpoint.ofPlaced settings m.root e.2) = se := by
      simpa [List.zip_map', List.mem_map] using hse
    have hname : (Route.placed m.root e.2).name = e.1 := h.keys e he
    rw [hname]
    exact ⟨h.keyed.service?_ofPlaced he, h.keyed.endpoint?_ofPlaced he⟩

/-- **A descriptor that was compiled** of a manifest, an archetype or a template. -/
inductive Compiled (settings : Settings) : Descriptor → Prop
  | manifest {text : String} {m : RequestMeta} {D : Descriptor} :
    ofManifest text m settings = .ok D → Compiled settings D
  | archetype {id : String} {o : Wizard.Options} {secrets : Nat → String} {m : RequestMeta}
    {D : Descriptor} : ofArchetype id o secrets m settings = .ok D → Compiled settings D
  | template {t : Template} {supplied : Bindings} {m : RequestMeta} {D : Descriptor} :
    ofTemplate t supplied m settings = .ok D → Compiled settings D

/-- A description is compiled when it becomes a document and the document a descriptor. -/
theorem assembled_eq_ok_iff {d? : Except CompileError Document} {m : RequestMeta}
    {settings : Settings} {D : Descriptor} :
    CompileError.assembled d? m settings = .ok D ↔
      ∃ d, d? = .ok d ∧ d.assemble m settings = .ok D := by
  rw [CompileError.assembled, Outcome.bind_eq_ok]
  exact exists_congr fun d => and_congr_right fun _ => CompileError.ofViolation_eq_ok_iff

/-- **Whatever was compiled was assembled** from a document that something describes. -/
theorem Compiled.exists_assemble {settings : Settings} {D : Descriptor} (h : D.Compiled settings) :
    ∃ (d : Document) (m : RequestMeta), d.Described ∧ d.assemble m settings = .ok D := by
  cases h with
  | manifest h =>
    obtain ⟨d, hd, h⟩ := assembled_eq_ok_iff.1 h
    exact ⟨d, _, .text hd, h⟩
  | archetype h =>
    obtain ⟨d, hd, h⟩ := assembled_eq_ok_iff.1 h
    exact ⟨d, _, .archetype (CompileError.ofViolation_eq_ok_iff.1 hd), h⟩
  | template h =>
    obtain ⟨d, hd, h⟩ := assembled_eq_ok_iff.1 h
    exact ⟨d, _, .template hd, h⟩

/-- **Every service of a descriptor that was compiled can be reached.** -/
theorem Compiled.reachable {settings : Settings} {D : Descriptor} (h : D.Compiled settings) :
    D.Reachable settings := by
  obtain ⟨d, m, hd, h⟩ := h.exists_assemble
  obtain ⟨-, rfl⟩ := Document.assemble_eq_ok_iff.1 h
  exact reachable_ofPlaced hd.normal m settings

end Descriptor

/-- A template of four services: a label names the port of the first two, in a list and in a mapping
of labels, the third has a port, and the last has neither. -/
def Template.gallery : Template where
  id := "gallery"
  name := "Gallery"
  category := .container
  skeleton := .mapping [(.string "services", .mapping [
    (.string "main", .mapping [
      (.string "image", .string "gallery:\x7b\x7bversion\x7d\x7d"),
      (.string "ports", .sequence [.number (.int 80)]),
      (.string "labels", .sequence [.string "spinforge.port= 8080 "])]),
    (.string "feed", .mapping [
      (.string "ports", .sequence [.number (.int 80)]),
      (.string "labels", .mapping [(.string "spinforge.port", .number (.int 9090))])]),
    (.string "api", .mapping [(.string "ports", .sequence [.string "9000:3000/tcp"])]),
    (.string "worker", .null)])]
  declared := [{ name := "version", fallback := some "1" }]

theorem Descriptor.reachable_gallery :
    ∃ D, ofTemplate .gallery {} .webAndApi {} = .ok D ∧ D.Reachable {} ∧
      D.endpoints.map Endpoint.port = [8080, 9090, 3000, 80] := by
  have hports : (ofTemplate .gallery {} .webAndApi {}).toOption.map
      (fun D => D.endpoints.map Endpoint.port) = some [8080, 9090, 3000, 80] := by
    decide +kernel
  cases hD : ofTemplate .gallery {} .webAndApi {} with
  | error e =>
    rw [hD] at hports
    exact nomatch hports
  | ok D =>
    rw [hD] at hports
    exact ⟨D, rfl, Compiled.reachable (.template hD), Option.some.inj hports⟩

end Deployment
