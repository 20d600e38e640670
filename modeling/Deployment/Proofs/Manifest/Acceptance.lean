import Deployment.Proofs.Manifest.Reading

/-!
# Proofs/Manifest/Acceptance — which values are manifests

`Value.IsManifest` says what a manifest looks like, without the order in which it is read.
`Document.ofValue_accepts`: a value is read exactly when it looks like one, and its services are
then those of the value, in their order and under the texts of their keys.
-/

namespace Deployment

namespace Manifest

/-! ## The rules -/

/-- **What may stand under a key of the body of a service.** -/
@[mk_iff]
structure IsSetting (key v : Value) : Prop where
  ports : key.untagged = .string "ports" → v.IsList
  environment : key.untagged = .string "environment" → v.IsList ∨ ∃ vars, v = .mapping vars
  volumes : key.untagged = .string "volumes" → v.IsList
  subdomain : key.untagged = .string "x-subdomain" → v.IsScalar
  registry : key.untagged = .string "x-registry" → ∃ fields, v.untagged = .mapping fields

/-- **The body of a service**: its image is a scalar if it has one, and its entries are settings. -/
def IsBody (body : Value) : Prop :=
  ∃ es, HasEntries body es ∧ (∀ v, Value.lookup "image" es = some v → v.IsScalar) ∧
    ∀ e ∈ es, IsSetting e.1 e.2

/-- **The entries of a manifest** and those of its services: their names are pairwise different. -/
structure HasServices (root services : List (Value × Value)) : Prop where
  lookup : Value.lookup "services" root = some (.mapping services)
  names : ∃ names, List.Forall₂ (fun e name => Names e.1 name) services names ∧ names.Nodup
  bodies : ∀ e ∈ services, IsBody e.2
  volumes : ∀ e ∈ root, e.1.untagged = .string "volumes" → DeclaresVolumes e.2

/-! ## Settings

An entry of a body is refused by the reader of its key, and by no other. So each reader has its
statement, and an entry is a setting when the one of its key accepts it. -/

/-- A list may be missing, and is then empty. -/
theorem exists_listEntries_iff {error : SchemaError} {v : Value} :
    (∃ items, listEntries error v = .ok items) ↔ v.IsList := by
  cases v with
  | null => exact ⟨fun _ => .null, fun _ => ⟨_, rfl⟩⟩
  | sequence items => exact ⟨fun _ => .sequence items, fun _ => ⟨_, rfl⟩⟩
  | _ => exact ⟨nofun, nofun⟩

/-- Variables are listed or mapped, or missing. -/
theorem exists_environment_iff (service : String) {v : Value} :
    (∃ e, environment service v = .ok e) ↔ v.IsList ∨ ∃ vars, v = .mapping vars := by
  cases v with
  | null => exact ⟨fun _ => .inl .null, fun _ => ⟨_, rfl⟩⟩
  | sequence items => exact ⟨fun _ => .inl (.sequence items), fun _ => ⟨_, rfl⟩⟩
  | mapping es => exact ⟨fun _ => .inr ⟨es, rfl⟩, fun _ => ⟨_, rfl⟩⟩
  | _ => exact ⟨nofun, nofun⟩

/-- Credentials are a mapping, whatever it holds. -/
theorem exists_registry_iff {service : String} {v : Value} :
    (∃ r, registry service v = .ok r) ↔ ∃ fields, v.untagged = .mapping fields := by
  simp only [registry, ← Value.asMapping?_eq_some_iff]
  cases v.asMapping? with
  | none => exact ⟨nofun, nofun⟩
  | some fields => exact ⟨fun _ => ⟨fields, rfl⟩, fun _ => ⟨_, rfl⟩⟩

/-- Keys without a meaning are kept, so they never refuse. -/
theorem exists_setting_iff (service : String) {key v : Value} :
    (∃ s, setting service (key, v) = .ok s) ↔ IsSetting key v := by
  simp only [isSetting_iff, ← Value.asString?_eq_some_iff]
  rw [setting]
  split
  case h_1 hk => simp [hk]
  case h_2 hk => simp [hk, Outcome.exists_map_eq_ok_iff, exists_listEntries_iff]
  case h_3 hk =>
    rw [← exists_environment_iff service, Prod.exists]
    simp [hk, Outcome.exists_map_eq_ok_iff]
  case h_4 hk => simp [hk, Outcome.exists_map_eq_ok_iff, exists_listEntries_iff]
  case h_5 hk =>
    simp only [hk, ← Value.exists_scalarText?_iff]
    cases v.scalarText? <;> simp
  case h_6 hk => simp [hk, Outcome.exists_map_eq_ok_iff, exists_registry_iff]
  case h_7 _ hports henvironment hvolumes hsubdomain hregistry =>
    exact ⟨fun _ => ⟨fun h => (hports h).elim, fun h => (henvironment h).elim,
      fun h => (hvolumes h).elim, fun h => (hsubdomain h).elim, fun h => (hregistry h).elim⟩,
      fun _ => ⟨_, rfl⟩⟩

/-- An image may be missing, but where there is one it has a text. -/
theorem exists_image_iff (service : String) {es : List (Value × Value)} :
    (∃ text, image service es = .ok text) ↔
      ∀ v, Value.lookup "image" es = some v → v.IsScalar := by
  rw [image]
  cases Value.lookup "image" es with
  | none => exact ⟨fun _ _ => nofun, fun _ => ⟨_, rfl⟩⟩
  | some v =>
    simp only [Option.some.injEq, forall_eq', ← Value.exists_scalarText?_iff]
    cases v <;> simp [Value.scalarText?]

/-! ## Services

A service is read when its key gives a name and its body is one. What is asked of all services, that
their names differ, is asked of the names alone. -/

/-- **A body is read exactly when it keeps the rules**, whatever the name of the service. -/
theorem exists_service_iff (name : String) {body : Value} :
    (∃ draft, service name body = .ok draft) ↔ IsBody body := by
  simp only [service_eq_ok_iff, IsBody]
  constructor
  · rintro ⟨_, es, img, ss, hes, himg, hss, -⟩
    refine ⟨es, hes, (exists_image_iff name).1 ⟨img, himg⟩, fun e he => ?_⟩
    obtain ⟨s, hs⟩ := Outcome.exists_forall₂_iff.1 ⟨ss, hss⟩ e he
    exact (exists_setting_iff name).1 ⟨s, hs⟩
  · rintro ⟨es, hes, himg, hsettings⟩
    obtain ⟨img, himg⟩ := (exists_image_iff name).2 himg
    obtain ⟨ss, hss⟩ := Outcome.exists_forall₂_iff.2 fun e he =>
      (exists_setting_iff name).2 (hsettings e he)
    exact ⟨_, es, img, ss, hes, himg, hss, rfl⟩

theorem exists_reads_iff {e : Value × Value} {name : String} :
    (∃ draft, Reads e draft ∧ draft.1.name = name) ↔ IsBody e.2 ∧ Names e.1 name := by
  constructor
  · rintro ⟨draft, ⟨hname, hservice⟩, rfl⟩
    exact ⟨(exists_service_iff _).1 ⟨draft, hservice⟩, hname⟩
  · rintro ⟨hbody, hname⟩
    obtain ⟨draft, hservice⟩ := (exists_service_iff name).2 hbody
    obtain ⟨es, img, ss, -, -, -, rfl⟩ := service_eq_ok_iff.1 hservice
    exact ⟨_, .intro hname hservice, name_drafted name img ss⟩

/-- **Services are read under given names** when their bodies keep the rules and their keys give
these names. -/
theorem exists_drafts_iff {services : List (Value × Value)} {names : List String} :
    (∃ drafts, List.Forall₂ Reads services drafts ∧
      drafts.map (fun draft => draft.1.name) = names) ↔
      (∀ e ∈ services, IsBody e.2) ∧
        List.Forall₂ (fun e name => Names e.1 name) services names := by
  simp only [Outcome.exists_forall₂_map_iff, exists_reads_iff, List.forall₂_and_left]

end Manifest

/-! ## Manifests -/

/-- **What a manifest looks like.** -/
def Value.IsManifest (v : Value) : Prop :=
  ∃ root services, v.untagged = .mapping root ∧ Manifest.HasServices root services

/-- Whether a document has the services of a manifest, each under the text of its key and with this
text as its name. -/
def Document.HasServicesOf (d : Document) (v : Value) : Prop :=
  ∃ root services, v.untagged = .mapping root ∧
    Value.lookup "services" root = some (.mapping services) ∧
    List.Forall₂ (fun e s => Manifest.Names e.1 s.1 ∧ s.2.name = s.1) services d.services

namespace Manifest

/-- What stands beside the services adds none. -/
theorem services_withEntry (d : Document) (e : Value × Value) :
    (withEntry d e).services = d.services := by
  rw [withEntry]
  split
  · rfl
  · rw [declaring_eq]
  · rfl

theorem services_foldl_withEntry (d : Document) (es : List (Value × Value)) :
    (es.foldl withEntry d).services = d.services := by
  induction es generalizing d with
  | nil => rfl
  | cons e es ih => exact (ih (withEntry d e)).trans (services_withEntry d e)

end Manifest

/-- A value is read when it looks like a manifest. -/
theorem Document.exists_ofValue_iff {v : Value} : (∃ d, ofValue v = .ok d) ↔ v.IsManifest := by
  simp only [ofValue_eq_ok_iff, Value.IsManifest]
  constructor
  · rintro ⟨_, root, services, drafts, hroot, hlookup, hreads, hnodup, hvolumes, -⟩
    obtain ⟨hbodies, hnames⟩ := Manifest.exists_drafts_iff.1 ⟨drafts, hreads, rfl⟩
    exact ⟨root, services, hroot, hlookup, ⟨_, hnames, hnodup⟩, hbodies,
      fun e he hkey => hvolumes e he (Value.asString?_eq_some_iff.2 hkey)⟩
  · rintro ⟨root, services, hroot, hlookup, ⟨names, hnames, hnodup⟩, hbodies, hvolumes⟩
    obtain ⟨drafts, hreads, rfl⟩ := Manifest.exists_drafts_iff.2 ⟨hbodies, hnames⟩
    exact ⟨_, root, services, drafts, hroot, hlookup, hreads, hnodup,
      fun e he hkey => hvolumes e he (Value.asString?_eq_some_iff.1 hkey), rfl⟩

/-- What is read has the services of the value. -/
theorem Document.hasServicesOf_of_ofValue {v : Value} {d : Document} (h : ofValue v = .ok d) :
    d.HasServicesOf v := by
  obtain ⟨root, services, drafts, hroot, hlookup, hreads, -, -, rfl⟩ := ofValue_eq_ok_iff.1 h
  refine ⟨root, services, hroot, hlookup, ?_⟩
  rw [Manifest.services_foldl_withEntry, Manifest.withDrafts, List.nil_append,
    List.forall₂_map_right_iff]
  exact hreads.imp fun e draft hdraft => ⟨hdraft.1, rfl⟩

/-- **A value is read exactly when it looks like a manifest, and with the services it holds.** -/
theorem Document.ofValue_accepts (v : Value) :
    ((∃ d, ofValue v = .ok d) ↔ v.IsManifest) ∧ ∀ d, ofValue v = .ok d → d.HasServicesOf v :=
  ⟨exists_ofValue_iff, fun _ => hasServicesOf_of_ofValue⟩

/-- A manifest of two services: a number names one of which nothing is said, and the other has
settings of every kind. -/
def Value.shopManifest : Value :=
  .mapping [
    (.string "services", .mapping [
      (.number (.int 5), .null),
      (.string "web", .mapping [
        (.string "image", .string "web:1"),
        (.string "ports", .sequence [.string "8080:80/tcp"]),
        (.string "environment", .mapping [(.string "DEBUG", .bool true)]),
        (.string "volumes", .sequence [.string "data:/var"]),
        (.string "x-subdomain", .string "www"),
        (.string "x-registry", .mapping [(.string "url", .string "registry.example.com")])])]),
    (.string "volumes", .mapping [(.string "data", .null)])]

/-- The document of it. -/
def Document.shop : Document where
  services := [
    ("5", { name := "5", image := Service.customBuild }),
    ("web", {
      name := "web"
      image := "web:1"
      ports := [80]
      environment := .ofList [("DEBUG", "true")]
      volumes := ["data:/var"]
      subdomain := some "www"
      registry := some { url := some "registry.example.com" } })]
  volumes := .ofList ["data"]

/-- Two services whose names are the number and the text of it. -/
def Value.twoFives : Value :=
  .mapping [(.string "services", .mapping [(.number (.int 5), .null), (.string "5", .null)])]

theorem Document.ofValue_shopManifest :
    Value.IsManifest .shopManifest ∧ ofValue .shopManifest = .ok shop ∧
      shop.HasServicesOf .shopManifest ∧ ¬ Value.IsManifest .twoFives := by
  have hshop : ofValue .shopManifest = .ok shop := rfl
  have htwice : ofValue .twoFives = .error (.violation (.duplicateService "5")) := rfl
  obtain ⟨hiff, hservices⟩ := ofValue_accepts .shopManifest
  refine ⟨hiff.1 ⟨shop, hshop⟩, hshop, hservices shop hshop, fun h => ?_⟩
  obtain ⟨d, hd⟩ := (ofValue_accepts .twoFives).1.2 h
  exact absurd (htwice.symm.trans hd) nofun

end Deployment
