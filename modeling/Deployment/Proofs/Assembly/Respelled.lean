import Deployment.Compilation
import Deployment.Proofs.Assembly.Soundness
import Deployment.Proofs.Manifest.Respelled

/-!
# Proofs/Assembly/Respelled — variables and labels mean the same in every spelling

Of the keys that a service keeps, routes and endpoints depend on its labels only, and on these by
their texts (`Service.Respelled.labelPort?_eq`).  A document whose labels are spelled in another way
is therefore routed and assembled alike (`Document.assemble_agree`).  Together with reading: a
manifest says the same in every spelling (`Descriptor.spellings_agree`).
-/

namespace Deployment

open Outcome (Agree agree_bind_right)

/-! ## Services

What a service answers about its labels is the same in both spellings, and it is all that an
endpoint asks of the labels. -/

/-- The label of the port is one of the labels that are answered alike. -/
theorem Service.Respelled.labelPort?_eq {s t : Service} (h : s.Respelled t) :
    s.labelPort? = t.labelPort? := by
  rw [labelPort?, labelPort?, h.label?_eq]

/-- **The way to a service does not depend on the spelling of its labels.** -/
theorem Endpoint.ofService?_respelled (settings : Settings) (project domain : String)
    {s t : Service} (h : s.Respelled t) :
    ofService? settings project domain s = ofService? settings project domain t := by
  have hport : portOf s = portOf t := by
    rw [portOf, portOf, h.labelPort?_eq]
    obtain ⟨extra, -, rfl⟩ := h
    rfl
  rw [ofService?, ofService?, labelsOf, labelsOf, hport]
  obtain ⟨extra, -, rfl⟩ := h
  rfl

/-! ## Checks

No check looks at labels or at other keys. -/

namespace Validation

/-- A check of every service that does not look at the other keys. -/
theorem forM_respelled {f : Service → Except Violation Unit}
    (hf : ∀ s extra, f { s with extra } = f s) {es fs : List (String × Service)}
    (h : List.Forall₂ (fun s t => s.1 = t.1 ∧ s.2.Respelled t.2) es fs) :
    (fs.forM fun e => f e.2) = es.forM fun e => f e.2 := by
  induction h with
  | nil => rfl
  | @cons s t es fs hst _ ih =>
    obtain ⟨extra, -, ht⟩ := hst.2
    change (f t.2 >>= fun _ => fs.forM fun e => f e.2) = (f s.2 >>= fun _ => es.forM fun e => f e.2)
    rw [ih, ← ht, hf]

/-- Credentials are no labels. -/
theorem allCredentials_respelled {d d' : Document} (h : d.Respelled d') :
    allCredentials d' = allCredentials d := by
  obtain ⟨services, hservices, rfl⟩ := h
  exact forM_respelled (fun _ _ => rfl) hservices

theorem services_respelled {d d' : Document} (h : d.Respelled d') : services d' = services d := by
  obtain ⟨respelled, hservices, rfl⟩ := h
  have hempty : respelled.isEmpty = d.services.isEmpty := by
    rw [Bool.eq_iff_iff, List.isEmpty_iff_length_eq_zero, List.isEmpty_iff_length_eq_zero,
      hservices.length_eq]
  rw [services, services, hempty, forM_respelled (fun _ _ => rfl) hservices]

end Validation

/-! ## Routes -/

namespace Route

/-- A service is routed by its name and its fragment, which are the same in both. -/
theorem service_agree (root : Hostname) (taken : Taken) {s t : Service} (h : s.Respelled t) :
    Agree (fun a b => a.1.Respelled b.1 ∧ a.2 = b.2) (service root taken s)
      (service root taken t) := by
  obtain ⟨extra, hextra, rfl⟩ := h
  have hasked : asked { s with extra } = asked s := rfl
  rw [service, service, hasked]
  cases Fragment.ofString (asked s) with
  | error e => exact .error _
  | ok f =>
    by_cases hroot : f.isRoot = true
    · simp only [if_pos hroot]
      cases taken.owner with
      | some owner => exact .error _
      | none => exact .ok ⟨⟨extra, hextra, rfl⟩, rfl⟩
    by_cases htaken : taken.fragments.contains f.text = true
    · simp only [if_neg hroot, if_pos htaken]
      exact .error _
    · simp only [if_neg hroot, if_neg htaken]
      cases root.withFragment f with
      | error e => exact .error _
      | ok h => exact .ok ⟨⟨extra, hextra, rfl⟩, rfl⟩

/-- The two runs give away the same names, so they fail together or go on together. -/
theorem services_agree (root : Hostname) (taken : Taken) {es fs : List (String × Service)}
    (h : List.Forall₂ (fun s t => s.1 = t.1 ∧ s.2.Respelled t.2) es fs) :
    Agree (List.Forall₂ fun s t => s.1 = t.1 ∧ s.2.Respelled t.2) (services root taken es)
      (services root taken fs) := by
  induction h generalizing taken with
  | nil => exact .ok .nil
  | @cons s t es fs hst _ ih =>
    rw [services, services]
    refine (service_agree root taken hst.2).bind ?_
    rintro ⟨a, taken⟩ ⟨b, taken'⟩ ⟨hab, htaken⟩
    obtain rfl : taken = taken' := htaken
    exact (ih taken).bind fun _ _ hrest => .ok (.cons ⟨hst.1, hab⟩ hrest)

end Route

namespace Document

theorem route_agree {d d' : Document} (h : d.Respelled d') (root : Hostname) :
    Agree Respelled (d.route root) (d'.route root) := by
  obtain ⟨services, hservices, rfl⟩ := h
  exact (Route.services_agree root {} hservices).bind fun _ _ hrest => .ok ⟨_, hrest, rfl⟩

end Document

/-! ## Descriptors -/

/-- **Whether a descriptor is another one** but for the spelling of the labels that its services
keep. -/
def Descriptor.Respelled (D E : Descriptor) : Prop :=
  ∃ services, List.Forall₂ Service.Respelled D.services services ∧ { D with services } = E

/-- The descriptors have the same endpoints, and services that differ in their labels at most. -/
theorem Descriptor.ofRouted_respelled {d d' : Document} (h : d.Respelled d') (domain : Hostname)
    (aliases : List Hostname) (m : RequestMeta) (settings : Settings) :
    (ofRouted d domain aliases m settings).Respelled (ofRouted d' domain aliases m settings) := by
  obtain ⟨services, hservices, rfl⟩ := h
  have hrespelled : List.Forall₂ Service.Respelled (d.services.map Prod.snd)
      (services.map Prod.snd) := by
    rw [List.forall₂_map_left_iff, List.forall₂_map_right_iff]
    exact hservices.imp fun _ _ hst => hst.2
  have hendpoints (project : String) :
      (d.services.map Prod.snd).filterMap (Endpoint.ofService? settings project domain.text) =
        (services.map Prod.snd).filterMap (Endpoint.ofService? settings project domain.text) :=
    Outcome.filterMap_eq_of_forall₂ hrespelled fun _ _ hst =>
      Endpoint.ofService?_respelled settings project domain.text hst
  refine ⟨services.map Prod.snd, hrespelled, ?_⟩
  rw [ofRouted, ofRouted, hendpoints]

/-- **A document is assembled alike** whatever the spelling of its labels. -/
theorem Document.assemble_agree {d d' : Document} (h : d.Respelled d') (m : RequestMeta)
    (settings : Settings) :
    Agree Descriptor.Respelled (d.assemble m settings) (d'.assemble m settings) := by
  rw [assemble, assemble, Validation.allCredentials_respelled h, Validation.services_respelled h]
  refine agree_bind_right fun domain => agree_bind_right fun aliases => ?_
  refine agree_bind_right fun _ => agree_bind_right fun _ => ?_
  refine agree_bind_right fun _ => agree_bind_right fun _ => ?_
  exact (route_agree h domain).bind fun _ _ hrouted =>
    .ok (Descriptor.ofRouted_respelled hrouted domain aliases m settings)

/-! ## Manifests

The pairs of a list and of a mapping are read alike, and what is read is assembled alike. -/

/-- **Whether two services are the same to whoever asks for labels.** -/
structure Service.SameAnswers (s t : Service) : Prop where
  /-- They differ in the keys that they keep only, so fragments and host names are the same. -/
  rest : { s with extra := t.extra } = t
  label : ∀ key, s.label? key = t.label? key
  labelPort : s.labelPort? = t.labelPort?

/-- Respelled services answer alike. -/
theorem Service.Respelled.sameAnswers {s t : Service} (h : s.Respelled t) : s.SameAnswers t where
  rest := by
    obtain ⟨extra, -, rfl⟩ := h
    rfl
  label := h.label?_eq
  labelPort := h.labelPort?_eq

/-- A label that is written as a pair is found, in a mapping and in a list. -/
theorem Service.label?_withExtra {ps : List (String × String)} (h : LabelPairs ps) {v : Value}
    (hv : v.HoldsPairs ps) (s : Service) (key : String) :
    (s.withExtra "labels" v).label? key = Entries.find? Entries.sameText key ps := by
  have hlookup : Value.lookup "labels" (s.withExtra "labels" v).extra = some v :=
    Entries.find?_insert_self (Value.same_string_iff.2 rfl)
  rw [label?_eq, hlookup]
  exact labelIn?_of_pairs h hv key

/-- **Variables and labels mean the same as a mapping and as a list.**  Pairs are the same
variables, in their order, and answer for the same labels.  A body in another spelling is read as a
service with the same answers, and a manifest becomes a descriptor of such services with the same
endpoints; what fails does with the same error. -/
theorem spellings_agree :
    (∀ ps v, ∀ h : VariablePairs ps, v.HoldsPairs ps → ∀ service,
      Manifest.environment service v = .ok (⟨ps, h.distinct⟩, [])) ∧
    (∀ ps v, LabelPairs ps → v.HoldsPairs ps → ∀ (s : Service) key,
      (s.withExtra "labels" v).label? key = Entries.find? Entries.sameText key ps) ∧
    (∀ body other : Value, body.Altered (List.Forall₂ Manifest.RespelledEntry) other → ∀ name,
      Agree (fun a b => a.1.SameAnswers b.1 ∧ a.2 = b.2) (Manifest.service name body)
        (Manifest.service name other)) ∧
    ∀ v w : Value, v.Respelled w → ∀ m settings,
      Agree (fun D E : Descriptor => List.Forall₂ Service.SameAnswers D.services E.services ∧
          D.endpoints = E.endpoints)
        (CompileError.assembled (Document.ofValue v) m settings)
        (CompileError.assembled (Document.ofValue w) m settings) := by
  refine ⟨fun ps v h hv => Manifest.environment_of_pairs h hv, fun ps v h hv =>
    Service.label?_withExtra h hv, fun body other h name => ?_, fun v w h m settings => ?_⟩
  · exact (Manifest.service_agree name h).imp fun _ _ hab => ⟨hab.1.sameAnswers, hab.2⟩
  · have hagree := (Document.ofValue_agree h).bind fun d d' hd =>
      CompileError.ofViolation_agree (Document.assemble_agree hd m settings)
    refine hagree.imp fun D E hDE => ?_
    obtain ⟨services, hservices, rfl⟩ := hDE
    exact ⟨hservices.imp fun _ _ hst => hst.sameAnswers, rfl⟩

/-- Variables, one with a sign in its text and one without a text. -/
def blogVariables : List (String × String) := [("QUERY", "a=b"), ("EMPTY", "")]

/-- Labels that ask for a fragment and a port. -/
def blogLabels : List (String × String) :=
  [("spinforge.subdomain", "blog"), ("note", " x=y "), ("spinforge.port", "8080")]

/-- The manifest of a service with these variables and labels in one of the spellings. -/
def Value.blog (spelling : List (String × String) → Value) : Value :=
  .mapping [(.string "services", .mapping [
    (.string "web", .mapping [
      (.string "environment", spelling blogVariables), (.string "labels", spelling blogLabels)])])]

theorem spellings_agree_blog :
    VariablePairs blogVariables ∧ LabelPairs blogLabels ∧ ∃ D E : Descriptor,
      CompileError.assembled (Document.ofValue (.blog .pairMapping)) .webAndApi {} = .ok D ∧
      CompileError.assembled (Document.ofValue (.blog .pairList)) .webAndApi {} = .ok E ∧
      D.endpoints.map Endpoint.port = [8080] ∧ D.endpoints = E.endpoints := by
  have hvars : VariablePairs blogVariables := ⟨by decide, by decide, by decide⟩
  have hlabels : LabelPairs blogLabels := ⟨by decide, by decide⟩
  have hrespelled : (Value.blog .pairMapping).Respelled (.blog .pairList) :=
    .mapping (.cons (.services (.mapping (.cons ⟨rfl, .mapping (.cons
      (.environment rfl hvars .mapping .list)
      (.cons (.kept (.labels hlabels .mapping .list)) .nil))⟩ .nil))) .nil)
  have hagree := spellings_agree.2.2.2 _ _ hrespelled .webAndApi {}
  have hports : (CompileError.assembled (Document.ofValue (.blog .pairMapping)) .webAndApi
      {}).toOption.map (fun D => D.endpoints.map Endpoint.port) = some [8080] := by
    decide +kernel
  generalize CompileError.assembled (Document.ofValue (.blog .pairMapping)) .webAndApi {} = x,
    CompileError.assembled (Document.ofValue (.blog .pairList)) .webAndApi {} = y
    at hagree hports ⊢
  cases hagree with
  | error e => exact nomatch hports
  | @ok D E hDE => exact ⟨hvars, hlabels, D, E, rfl, rfl, Option.some.inj hports, hDE.2⟩

end Deployment
