import Deployment.Deploy
import Deployment.Proofs.Assembly.Deployable
import Deployment.Proofs.Entries
import Deployment.Proofs.Hostname.Lowercase
import Deployment.Proofs.Manifest.Reading
import Deployment.Proofs.Template.Resolution

/-!
# Proofs/Deploy — the texts that templates get from the system

Whatever a stored template declares and a request supplies, the names of the system are bound to the
domain of the descriptor, to the customer and to the deployment
(`Template.bindsSystem_of_resolve`), and what the request supplies for these names plays no part
(`Bindings.withSystem_without`).  `deploy_bindsSystem` says both of deploying.
-/

namespace Deployment

namespace Bindings

/-- The names that the system binds. -/
def systemNames : List String := ["domain", "customerName", "deployName", "namespace"]

/-- What the system binds does not depend on what its names were bound to. -/
theorem withSystem_without (b : Bindings) (domain customerName deployName : String) :
    (b.without systemNames).withSystem domain customerName deployName =
      b.withSystem domain customerName deployName := by
  refine ext_get? fun x => ?_
  simp only [withSystem, get?_insert, get?_without]
  by_cases hx : x ∈ systemNames
  · simp only [systemNames, List.mem_cons, List.not_mem_nil, or_false] at hx
    rcases hx with rfl | rfl | rfl | rfl <;> rfl
  · rw [if_neg hx]

/-- The texts of the system are found under their four names, whatever was supplied. -/
theorem get?_withSystem (b : Bindings) (domain customerName deployName : String) :
    (b.withSystem domain customerName deployName).get? "domain" =
        some (Text.lower (Text.trim domain)) ∧
      (b.withSystem domain customerName deployName).get? "customerName" = some customerName ∧
      (b.withSystem domain customerName deployName).get? "deployName" = some deployName ∧
      (b.withSystem domain customerName deployName).get? "namespace" =
        some (customerName ++ "-" ++ deployName) := by
  simp only [withSystem, get?_insert]
  exact ⟨rfl, rfl, rfl, rfl⟩

end Bindings

/-- A described deployment without the texts that the request supplies for names of the system. -/
def Description.withoutSystem : Description → Description
  | template id customerName deployName supplied =>
    template id customerName deployName (supplied.without Bindings.systemNames)
  | d => d

/-- **Whether texts are those of the system**: the domain, the customer and the deployment, as far
as these are not empty, and the two joined. -/
structure Bindings.BindsSystem (values : Bindings) (root : Hostname)
    (customer deployment : String) : Prop where
  domain : values.get? "domain" = some root.text
  customerName : customer ≠ "" → values.get? "customerName" = some customer
  deployName : deployment ≠ "" → values.get? "deployName" = some deployment
  joined : values.get? "namespace" = some (customer ++ "-" ++ deployment)

/-- **A template keeps the texts of the system**, whatever it declares. -/
theorem Template.bindsSystem_of_resolve {t : Template} {supplied resolved : Bindings}
    {domain customer deployment : String} {root : Hostname}
    (hroot : Hostname.canonical domain = .ok root)
    (h : t.resolve (supplied.withSystem domain customer deployment) = .ok resolved) :
    resolved.BindsSystem root customer deployment := by
  obtain ⟨hdomain, hcustomer, hdeployment, hjoined⟩ :=
    supplied.get?_withSystem domain customer deployment
  have hlower : Text.lower (Text.trim domain) = root.text := Hostname.lower_of_canonical hroot
  have hroot_ne : root.text ≠ "" := by
    obtain ⟨hgrammar, rfl⟩ := Hostname.canonical_eq_ok_iff.1 hroot
    intro hempty
    have hsize : (Hostname.canonicalText domain).utf8ByteSize = 0 := congrArg _ hempty
    have hpos := hgrammar.nonempty
    omega
  have hjoined_ne : customer ++ "-" ++ deployment ≠ "" := by
    intro hempty
    have hlist := congrArg String.toList hempty
    simp at hlist
  exact
    { domain := get?_resolve_of_supplied h hroot_ne (hlower ▸ hdomain)
      customerName := fun hne => get?_resolve_of_supplied h hne hcustomer
      deployName := fun hne => get?_resolve_of_supplied h hne hdeployment
      joined := get?_resolve_of_supplied h hjoined_ne hjoined }

/-- **A template is deployed when** it is in the store, its variables are resolved with the texts of
the system, and the skeleton filled with them becomes a descriptor. -/
theorem deploy_template_eq_ok_iff {store : TemplateStore} {settings : Settings} {id : RequestId}
    {time : Instant} {secrets : Nat → String} {target : Target}
    {templateId customer deployment : String} {supplied : Bindings} {D : Descriptor} :
    deploy store settings id time secrets (.template templateId customer deployment supplied)
        target = .ok D ↔
      ∃ t resolved d, store.get? templateId = some t ∧
        t.resolve (supplied.withSystem target.domain customer deployment) = .ok resolved ∧
        Template.fillSkeleton t.skeleton resolved = .ok d ∧
        d.assemble { target with context := { id, time, source := .template templateId } }
          settings = .ok D := by
  simp only [deploy]
  cases store.get? templateId with
  | none => exact ⟨nofun, fun ⟨_, _, _, ht, _⟩ => nomatch ht⟩
  | some t =>
    simp only [Outcome.mapError_eq_ok, Descriptor.ofTemplate, CompileError.assembled,
      Outcome.bind_eq_ok, Template.render, CompileError.ofViolation_eq_ok_iff, Description.source]
    constructor
    · rintro ⟨d, ⟨resolved, hresolved, hfilled⟩, hassemble⟩
      exact ⟨t, resolved, d, rfl, hresolved, hfilled, hassemble⟩
    · rintro ⟨_, resolved, d, ht, hresolved, hfilled, hassemble⟩
      obtain rfl := Option.some.inj ht
      exact ⟨d, ⟨resolved, hresolved, hfilled⟩, hassemble⟩

/-- **The texts of the system are those of the descriptor and the request, and nothing that the
request supplies for their names plays a part.** -/
theorem deploy_bindsSystem (store : TemplateStore) (settings : Settings) (id : RequestId)
    (time : Instant) (secrets : Nat → String) (target : Target) :
    (∀ templateId customer deployment supplied D,
      deploy store settings id time secrets (.template templateId customer deployment supplied)
        target = .ok D →
      ∃ t resolved d, store.get? templateId = some t ∧
        t.resolve (supplied.withSystem target.domain customer deployment) = .ok resolved ∧
        Template.fillSkeleton t.skeleton resolved = .ok d ∧
        d.assemble { target with context := { id, time, source := .template templateId } }
          settings = .ok D ∧
        resolved.BindsSystem D.domain customer deployment) ∧
    ∀ d : Description, deploy store settings id time secrets d.withoutSystem target =
      deploy store settings id time secrets d target := by
  refine ⟨fun templateId customer deployment supplied D h => ?_, fun d => ?_⟩
  · obtain ⟨t, resolved, d, ht, hresolved, hfilled, hassemble⟩ := deploy_template_eq_ok_iff.1 h
    have hroot : Hostname.canonical target.domain = .ok D.domain := by
      obtain ⟨hrules, rfl⟩ := Document.assemble_eq_ok_iff.1 hassemble
      exact Hostname.canonical_eq_ok_iff.2 ⟨hrules.domain, rfl⟩
    exact ⟨t, resolved, d, ht, hresolved, hfilled, hassemble,
      Template.bindsSystem_of_resolve hroot hresolved⟩
  · cases d with
    | manifest text => rfl
    | wizard archetype options => rfl
    | template templateId customer deployment supplied =>
      simp only [Description.withoutSystem, deploy, Bindings.withSystem_without]
      rfl

/-- A template that declares a name of the system with a default of its own. -/
def Template.greeting : Template where
  id := "greeting"
  name := "Greeting"
  category := .container
  skeleton := .mapping [
    (.string "services", .mapping [
      (.string "app", .mapping [
        (.string "image", .string "greeting"),
        (.string "environment", .mapping [
          (.string "HOST", .string "\x7b\x7bdomain\x7d\x7d"),
          (.string "SPACE", .string "\x7b\x7bnamespace\x7d\x7d")])])])]
  declared := [{ name := "domain", fallback := some "localhost" }]

/-- A target for it. -/
def Target.greeting : Target where
  domain := " Example.COM "
  customer := "c-1"

/-- A request for it that supplies a text for the name, too. -/
def Description.greeting : Description :=
  .template "greeting" "acme" "hello" (.ofList [("domain", "elsewhere.org")])

theorem deploy_greeting :
    ∃ D, deploy (.ofList [.greeting]) {} default default (fun _ => "") .greeting .greeting = .ok D ∧
      D.domain = ⟨"example.com"⟩ ∧
      ∃ resolved : Bindings, resolved.BindsSystem D.domain "acme" "hello" := by
  obtain ⟨D, hD⟩ := Outcome.exists_of_isOk
    (x := deploy (.ofList [.greeting]) {} default default (fun _ => "") .greeting .greeting)
    (by decide +kernel)
  obtain ⟨t, resolved, d, -, -, -, hassemble, hbinds⟩ :=
    (deploy_bindsSystem _ _ _ _ _ _).1 _ _ _ _ D hD
  have hroot : Target.greeting.root = ⟨"example.com"⟩ := by decide +kernel
  obtain ⟨-, rfl⟩ := Document.assemble_eq_ok_iff.1 hassemble
  exact ⟨_, hD, hroot, resolved, hbinds⟩

end Deployment
