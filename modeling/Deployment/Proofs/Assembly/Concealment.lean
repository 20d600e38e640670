import Deployment.Compilation
import Deployment.Proofs.Assembly.Soundness
import Deployment.Proofs.Manifest.Concealment

/-!
# Proofs/Assembly/Concealment — what is reported and assembled tells no secrets

A document is checked, routed and assembled without a look at its secrets
(`Document.assemble_conceal`).  Together with reading: manifests that differ in secrets only fail
with the same error, or become descriptors that differ in these secrets only
(`Value.SameBut.assembled`).
-/

namespace Deployment

variable (S : Secrets)

/-! ## Checks

The checks look at which texts are given and at the names of volumes, and at no text that is
concealed. So they accept and refuse a concealed document as they do the document. -/

namespace Document

/-- A check of every service that finds the same without a look at secrets. -/
theorem forM_services_conceal {f : Service → Except Violation Unit}
    (hf : ∀ s, f (s.conceal S) = f s) (d : Document) :
    ((d.conceal S).services.forM fun e => f e.2) = d.services.forM fun e => f e.2 := by
  rw [conceal]
  induction d.services with
  | nil => rfl
  | cons e es ih =>
    change (f (e.2.conceal S) >>= fun _ => _) = (f e.2 >>= fun _ => _)
    rw [hf, ih]

end Document

namespace Validation

/-- **Whether credentials are complete is no secret.** -/
theorem serviceCredentials_conceal (s : Service) :
    serviceCredentials (s.conceal S) = serviceCredentials s := by
  obtain ⟨name, image, ports, environment, volumes, subdomain, hostname, registry, extra⟩ := s
  cases registry with
  | none => rfl
  | some r =>
    change credentials _ (r.conceal (S.registry name)) = credentials _ r
    rw [credentials, Registry.missing?_conceal, credentials]
    rfl

theorem allCredentials_conceal (d : Document) : allCredentials (d.conceal S) = allCredentials d :=
  Document.forM_services_conceal S (serviceCredentials_conceal S) d

/-- The images and mounts of services are not concealed, so their check sees no difference. -/
theorem services_conceal (d : Document) : services (d.conceal S) = services d := by
  have hempty : (d.conceal S).services.isEmpty = d.services.isEmpty := by simp [Document.conceal]
  have hvolumes : (d.conceal S).volumes = d.volumes := rfl
  rw [services, services, hempty, hvolumes,
    Document.forM_services_conceal S (f := service d.volumes) (fun _ => rfl) d]

end Validation

/-! ## Routes -/

namespace Route

/-- **A service is routed without a look at its secrets.** -/
theorem service_conceal (root : Hostname) (taken : Taken) (s : Service) :
    service root taken (s.conceal S) =
      (fun e => (e.1.conceal S, e.2)) <$> service root taken s := by
  have hasked : asked (s.conceal S) = asked s := rfl
  have hname : (s.conceal S).name = s.name := rfl
  rw [service, service, hasked, hname]
  cases Fragment.ofString (asked s) with
  | error e => rfl
  | ok f =>
    by_cases hroot : f.isRoot = true
    · simp only [if_pos hroot]
      cases taken.owner <;> rfl
    by_cases htaken : taken.fragments.contains f.text = true
    · simp only [if_neg hroot, if_pos htaken]
      rfl
    · simp only [if_neg hroot, if_neg htaken]
      cases root.withFragment f <;> rfl

/-- Routing one service after the other commutes with concealing, as what is given away is the
same. -/
theorem services_conceal (root : Hostname) (taken : Taken) (es : List (String × Service)) :
    services root taken (es.map fun e => (e.1, e.2.conceal S)) =
      List.map (fun e => (e.1, e.2.conceal S)) <$> services root taken es := by
  induction es generalizing taken with
  | nil => rfl
  | cons e es ih =>
    rw [List.map_cons, services, services]
    refine Outcome.bind_eq_map_bind (service_conceal S root taken e.2) fun routed _ => ?_
    exact Outcome.bind_eq_map_bind (ih routed.2) fun _ _ => rfl

end Route

/-! ## Descriptors

What is concealed is carried along: it decides no check and no route, and stands in the descriptor
where it stood in the document. -/

/-- **Endpoints tell no secrets.** -/
theorem Descriptor.ofRouted_conceal (d : Document) (domain : Hostname) (aliases : List Hostname)
    (m : RequestMeta) (settings : Settings) :
    ofRouted (d.conceal S) domain aliases m settings =
      (ofRouted d domain aliases m settings).conceal S := by
  have hservices : (d.conceal S).services.map Prod.snd =
      (d.services.map Prod.snd).map (Service.conceal S) := by
    rw [Document.conceal, List.map_map, List.map_map]
    rfl
  have hendpoints (project : String) (ss : List Service) :
      (ss.map (Service.conceal S)).filterMap (Endpoint.ofService? settings project domain.text) =
        ss.filterMap (Endpoint.ofService? settings project domain.text) := by
    rw [List.filterMap_map]
    rfl
  rw [ofRouted, hservices, hendpoints]
  rfl

namespace Document

/-- **A document is assembled without a look at its secrets.** -/
theorem assemble_conceal (d : Document) (m : RequestMeta) (settings : Settings) :
    (d.conceal S).assemble m settings = Descriptor.conceal S <$> d.assemble m settings := by
  rw [assemble, assemble, Validation.allCredentials_conceal, Validation.services_conceal]
  refine Outcome.bind_eq_map_bind_right fun domain _ => ?_
  refine Outcome.bind_eq_map_bind_right fun aliases _ => ?_
  refine Outcome.bind_eq_map_bind_right fun _ _ => ?_
  refine Outcome.bind_eq_map_bind_right fun _ _ => ?_
  refine Outcome.bind_eq_map_bind_right fun _ _ => ?_
  refine Outcome.bind_eq_map_bind_right fun _ _ => ?_
  have hroute : (d.conceal S).route domain = conceal S <$> d.route domain :=
    Outcome.bind_eq_map_bind (Route.services_conceal S domain {} d.services) fun _ _ => rfl
  refine Outcome.bind_eq_map_bind hroute fun routed _ => ?_
  exact congrArg Except.ok (Descriptor.ofRouted_conceal S routed domain aliases m settings)

end Document

variable {S}

/-- **Errors, warnings and descriptors do not depend on secrets.**  Two manifests that differ in
secrets only are refused with the same error, or they are read with the same warnings and become
descriptors that differ in these secrets only. -/
theorem Value.SameBut.assembled {v w : Value} (h : v.SameBut S w) (m : RequestMeta)
    (settings : Settings) :
    (∃ e, CompileError.assembled (Document.ofValue v) m settings = .error e ∧
        CompileError.assembled (Document.ofValue w) m settings = .error e) ∨
      ∃ c d D E, Document.ofValue v = .ok c ∧ Document.ofValue w = .ok d ∧
        c.warnings = d.warnings ∧ c.assemble m settings = .ok D ∧ d.assemble m settings = .ok E ∧
          D.SameBut S E := by
  have hread : Document.conceal S <$> Document.ofValue v =
      Document.conceal S <$> Document.ofValue w := by
    rw [← Document.ofValue_conceal, ← Document.ofValue_conceal, h]
  obtain ⟨e, hv, hw⟩ | ⟨c, d, hv, hw, hcd⟩ := Outcome.exists_of_map_eq_map hread
  · refine Or.inl ⟨e, ?_, ?_⟩
    · rw [hv]
      rfl
    · rw [hw]
      rfl
  have hassemble : Descriptor.conceal S <$> c.assemble m settings =
      Descriptor.conceal S <$> d.assemble m settings := by
    rw [← Document.assemble_conceal, ← Document.assemble_conceal, hcd]
  obtain ⟨e, hc, hd⟩ | ⟨D, E, hc, hd, hDE⟩ := Outcome.exists_of_map_eq_map hassemble
  · refine Or.inl ⟨.violation e, ?_, ?_⟩
    · rw [hv, CompileError.assembled, Outcome.ok_bind, hc]
      rfl
    · rw [hw, CompileError.assembled, Outcome.ok_bind, hd]
      rfl
  · have hwarnings : (c.conceal S).warnings = (d.conceal S).warnings :=
      congrArg Document.warnings hcd
    exact Or.inr ⟨c, d, D, E, hv, hw, hwarnings, hc, hd, hDE⟩

/-- A manifest whose service has a key among its variables and a password for its registry. -/
def Value.keyed (key mail password : String) : Value :=
  .mapping [(.string "services", .mapping [
    (.string "web", .mapping [
      (.string "image", .string "registry.example.com/shop"),
      (.string "environment", .mapping [
        (.string "MAIL", .string mail), (.string "API_KEY", .string key)]),
      (.string "x-registry", .mapping [
        (.string "username", .string "shop"), (.string "password", .string password)])]),
    (.string "job", .mapping [
      (.string "image", .string "job:1"),
      (.string "ports", .sequence [.string "none"]),
      (.string "environment", .sequence [.string ("API_KEY=" ++ key), .string "MODE=slow"])])])]

/-- The keys and the passwords. -/
def Secrets.keyed : Secrets where
  environment _ key := key == "API_KEY"
  registry _ field := field == "password"

theorem Value.SameBut.assembled_keyed :
    (Value.keyed "one" "a@example.com" "first").SameBut .keyed
        (Value.keyed "two" "a@example.com" "second") ∧
      ∃ c d D E, Document.ofValue (.keyed "one" "a@example.com" "first") = .ok c ∧
        Document.ofValue (.keyed "two" "a@example.com" "second") = .ok d ∧
        c.warnings = d.warnings ∧ c.assemble .webAndApi {} = .ok D ∧
        d.assemble .webAndApi {} = .ok E ∧ D.SameBut .keyed E := by
  have hsame : (Value.keyed "one" "a@example.com" "first").SameBut .keyed
      (Value.keyed "two" "a@example.com" "second") := by
    rw [Value.SameBut]
    rfl
  refine ⟨hsame, (hsame.assembled .webAndApi {}).resolve_left ?_⟩
  rintro ⟨e, he, -⟩
  have hok : (CompileError.assembled (Document.ofValue (.keyed "one" "a@example.com" "first"))
      .webAndApi {}).isOk = true := by decide +kernel
  rw [he] at hok
  exact nomatch hok

end Deployment
