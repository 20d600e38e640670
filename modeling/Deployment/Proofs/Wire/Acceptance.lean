import Deployment.Proofs.Hostname.Fragment
import Deployment.Proofs.Wire.RoundTrip

/-!
# Proofs/Wire/Acceptance — what can be read from JSON

The descriptors that some JSON value is read as are those that have a JSON form
(`Descriptor.exists_ofJson_iff`).  Nothing is asked of their host names: a host name is the text
that stands in its place, as it is, so it keeps the rules of host names only if that text does
(`Descriptor.names_of_ofJson`).  A fragment is checked (`Fragment.ofJson_eq_ok_iff`).
-/

namespace Deployment

open Json (Decode Fields named)

/-! ## What was read has a JSON form

Reading checks the ports of services and endpoints, and the other keys come from JSON. So nothing is
read that could not be written again. -/

/-- A service is read field by field; these fields are the ones that are checked or named below. -/
theorem Service.parts_of_reads {ms : List (String × Json)} {s : Service} (h : fields.Reads ms s) :
    (Fields.defaulted "ports" [] (Decode.list Decode.port)).Reads ms s.ports ∧
      (Fields.optional "hostname" Hostname.ofJson).Reads ms s.hostname ∧
      (Fields.defaulted "extra" [] Value.entriesOfJson).Reads ms s.extra := by
  simp only [fields, Fields.reads_seq_iff, Fields.reads_map_iff] at h
  -- the record is applied to its fields in turn, so that the last one comes first
  obtain ⟨_, extra, ⟨_, registry, ⟨_, hostname, ⟨_, subdomain, ⟨_, volumes, ⟨_, environment,
    ⟨_, ports, ⟨_, image, ⟨name, -, rfl⟩, -, rfl⟩, hports, rfl⟩, -, rfl⟩, -, rfl⟩, -, rfl⟩,
    hhostname, rfl⟩, -, rfl⟩, hextra, rfl⟩ := h
  exact ⟨hports, hhostname, hextra⟩

theorem Endpoint.parts_of_reads {ms : List (String × Json)} {e : Endpoint} (h : fields.Reads ms e) :
    (Fields.required "hostname" Hostname.ofJson).Reads ms e.hostname ∧
      (Fields.required "port" Decode.port).Reads ms e.port := by
  simp only [fields, Fields.reads_seq_iff, Fields.reads_map_iff] at h
  obtain ⟨_, labels, ⟨_, port, ⟨_, container, ⟨_, hostname, ⟨service, -, rfl⟩, hhostname, rfl⟩, -,
    rfl⟩, hport, rfl⟩, -, rfl⟩ := h
  exact ⟨hhostname, hport⟩

theorem Descriptor.parts_of_reads {ms : List (String × Json)} {d : Descriptor}
    (h : fields.Reads ms d) :
    (Fields.required "domain" Hostname.ofJson).Reads ms d.domain ∧
      (Fields.required "aliases" (Decode.list Hostname.ofJson)).Reads ms d.aliases ∧
      (Fields.required "services" (Decode.list Service.ofJson)).Reads ms d.services ∧
      (Fields.required "endpoints" (Decode.list Endpoint.ofJson)).Reads ms d.endpoints ∧
      (Fields.required "context" RequestContext.ofJson).Reads ms d.context := by
  simp only [fields, Fields.reads_seq_iff, Fields.reads_map_iff] at h
  obtain ⟨_, context, ⟨_, registry, ⟨_, volumes, ⟨_, endpoints, ⟨_, services, ⟨_, project, ⟨_, ssl,
    ⟨_, customer, ⟨_, aliases, ⟨domain, hdomain, rfl⟩, haliases, rfl⟩, -, rfl⟩, -, rfl⟩, -, rfl⟩,
    hservices, rfl⟩, hendpoints, rfl⟩, -, rfl⟩, -, rfl⟩, hcontext, rfl⟩ := h
  exact ⟨hdomain, haliases, hservices, hendpoints, hcontext⟩

/-- **A service that was read can be written.** -/
theorem Service.hasJson_of_ofJson {j : Json} {s : Service} (h : ofJson j = .ok s) : s.HasJson := by
  obtain ⟨hports, -, hextra⟩ := parts_of_reads (Decode.reads_of_record h)
  constructor
  · rcases Fields.reads_defaulted_iff.1 hports with ⟨-, hnone⟩ | ⟨i, -, hi⟩
    · rw [← hnone]
      exact nofun
    · exact Decode.forall_mem_of_list (fun _ _ hp => (Decode.port_eq_ok_iff.1 hp).1) hi
  · rcases Fields.reads_defaulted_iff.1 hextra with ⟨-, hnone⟩ | ⟨i, -, hi⟩
    · rw [← hnone]
      exact Value.isJson_mapping_nil
    · exact Value.exists_entriesOfJson_iff.1 ⟨i, hi⟩

/-- A port that is read has sixteen bits. -/
theorem Endpoint.port_lt_of_ofJson {j : Json} {e : Endpoint} (h : ofJson j = .ok e) :
    e.port < 65536 := by
  obtain ⟨-, hport⟩ := parts_of_reads (Decode.reads_of_record h)
  obtain ⟨i, -, hi⟩ := Fields.reads_required_iff.1 hport
  exact (Decode.port_eq_ok_iff.1 hi).1

/-- **What can be read is what has a JSON form**, its context being one that can be read. -/
theorem Descriptor.exists_ofJson_iff {d : Descriptor} :
    (∃ j, ofJson j = .ok d) ↔ d.HasJson ∧ ∃ j, RequestContext.ofJson j = .ok d.context := by
  constructor
  · rintro ⟨j, h⟩
    obtain ⟨-, -, hservices, hendpoints, hcontext⟩ := parts_of_reads (Decode.reads_of_record h)
    obtain ⟨_, -, hservices⟩ := Fields.reads_required_iff.1 hservices
    obtain ⟨_, -, hendpoints⟩ := Fields.reads_required_iff.1 hendpoints
    obtain ⟨i, -, hcontext⟩ := Fields.reads_required_iff.1 hcontext
    exact ⟨⟨Decode.forall_mem_of_list (fun _ _ => Service.hasJson_of_ofJson) hservices,
      Decode.forall_mem_of_list (fun _ _ => Endpoint.port_lt_of_ofJson) hendpoints⟩, i, hcontext⟩
  · rintro ⟨h, context, hcontext⟩
    obtain ⟨js, -, hservices⟩ := exists_servicesToJson h.services
    exact ⟨_, ofJson_members h hservices hcontext⟩

/-! ## Host names

A host name is any text in JSON. The texts that stand for host names are listed, so that what is
asked of them can be said of all at once. -/

/-- **Every text is taken as a host name**, as it is. -/
theorem Hostname.ofJson_eq_ok_iff {j : Json} {h : Hostname} :
    ofJson j = .ok h ↔ j = .string h.text := by
  rw [ofJson, Decode.map_eq_ok_iff]
  simp only [Decode.text_eq_ok_iff]
  exact ⟨fun ⟨_, hj, hh⟩ => hh ▸ hj, fun hj => ⟨_, hj, rfl⟩⟩

/-- **A text is taken as a fragment if its lower-case form keeps the rules**, and as that form. -/
theorem Fragment.ofJson_eq_ok_iff {j : Json} {f : Fragment} :
    ofJson j = .ok f ↔
      ∃ raw, j = .string raw ∧ Grammar (normalText raw) ∧ f = ⟨normalText raw⟩ := by
  rw [ofJson, Decode.refine_eq_ok_iff]
  simp only [Decode.text_eq_ok_iff, Outcome.mapError_eq_ok, ofString_eq_ok_iff]

/-- The items of an array. -/
def Json.items (j : Json) : List Json := j.asArray?.getD []

/-- **The text in the place of a host name**, if there is one. -/
def Hostname.textsIn (j : Json) : List String := j.asString?.toList

/-- The text in the place of a service's host name. -/
def Service.textsIn (j : Json) : List String :=
  (named ["hostname"] (j.membersFor fields.names)).flatMap Hostname.textsIn

/-- The text in the place of an endpoint's host name. -/
def Endpoint.textsIn (j : Json) : List String :=
  (named ["hostname"] (j.membersFor fields.names)).flatMap Hostname.textsIn

/-- **The texts in the places of a descriptor's host names**: its domain and aliases, and those of
its services and endpoints. -/
def Descriptor.textsIn (j : Json) : List String :=
  let part (name : String) : List Json := named [name] (j.membersFor fields.names)
  (part "domain").flatMap Hostname.textsIn ++
    ((part "aliases").flatMap Json.items).flatMap Hostname.textsIn ++
    ((part "services").flatMap Json.items).flatMap Service.textsIn ++
    ((part "endpoints").flatMap Json.items).flatMap Endpoint.textsIn

/-- The host names of a descriptor. -/
def Descriptor.names (d : Descriptor) : List Hostname :=
  d.domain :: d.aliases ++ d.services.flatMap (fun s => s.hostname.toList) ++
    d.endpoints.map Endpoint.hostname

theorem Hostname.textsIn_of_ofJson {j : Json} {h : Hostname} (hj : ofJson j = .ok h) :
    textsIn j = [h.text] := by
  rw [ofJson_eq_ok_iff.1 hj]
  rfl

theorem Service.textsIn_of_ofJson {j : Json} {s : Service} (h : ofJson j = .ok s) :
    textsIn j = s.hostname.toList.map Hostname.text := by
  obtain ⟨-, hname, -⟩ := parts_of_reads (Decode.reads_of_record h)
  rw [textsIn]
  rcases Fields.reads_defaulted_iff.1 hname with ⟨hmember, hnone⟩ | ⟨i, hmember, hi⟩
  · rw [hmember, ← hnone]
    rfl
  · rw [hmember, List.flatMap_singleton]
    cases hs : s.hostname with
    | none =>
      rw [hs, Decode.optional_eq_ok_none_iff] at hi
      rw [hi]
      rfl
    | some name =>
      rw [hs, Decode.optional_eq_ok_some_iff] at hi
      exact Hostname.textsIn_of_ofJson hi.2

theorem Endpoint.textsIn_of_ofJson {j : Json} {e : Endpoint} (h : ofJson j = .ok e) :
    textsIn j = [e.hostname.text] := by
  obtain ⟨hname, -⟩ := parts_of_reads (Decode.reads_of_record h)
  obtain ⟨i, hmember, hi⟩ := Fields.reads_required_iff.1 hname
  rw [textsIn, hmember, List.flatMap_singleton, Hostname.textsIn_of_ofJson hi]

/-- Items have the texts that are said of what they are read as. -/
theorem Json.flatMap_items_of_list {α : Type} {d : Decode α} {texts : Json → List String}
    {textsOf : α → List String} (h : ∀ j a, d j = .ok a → texts j = textsOf a) {j : Json}
    {as : List α} (hj : Decode.list d j = .ok as) : j.items.flatMap texts = as.flatMap textsOf := by
  obtain ⟨js, rfl, has⟩ := Decode.list_eq_ok_iff.1 hj
  change js.flatMap texts = _
  clear hj
  induction has with
  | nil => rfl
  | cons hja _ ih => rw [List.flatMap_cons, List.flatMap_cons, h _ _ hja, ih]

/-- **The host names that were read are the texts in their places**, in their order and as they
are. -/
theorem Descriptor.textsIn_of_ofJson {j : Json} {d : Descriptor} (h : ofJson j = .ok d) :
    textsIn j = d.names.map Hostname.text := by
  obtain ⟨hdomain, haliases, hservices, hendpoints, -⟩ := parts_of_reads (Decode.reads_of_record h)
  obtain ⟨_, hdomain, hname⟩ := Fields.reads_required_iff.1 hdomain
  obtain ⟨_, haliases, hnames⟩ := Fields.reads_required_iff.1 haliases
  obtain ⟨_, hservices, hhosts⟩ := Fields.reads_required_iff.1 hservices
  obtain ⟨_, hendpoints, hways⟩ := Fields.reads_required_iff.1 hendpoints
  simp only [textsIn, hdomain, haliases, hservices, hendpoints, List.flatMap_singleton]
  rw [Hostname.textsIn_of_ofJson hname,
    Json.flatMap_items_of_list (fun _ _ => Hostname.textsIn_of_ofJson) hnames,
    Json.flatMap_items_of_list (fun _ _ => Service.textsIn_of_ofJson) hhosts,
    Json.flatMap_items_of_list (fun _ _ => Endpoint.textsIn_of_ofJson) hways,
    ← List.map_eq_flatMap, ← List.map_eq_flatMap, names, List.map_append, List.map_append,
    List.map_cons, List.map_flatMap, List.map_map]
  rfl

/-! ## Other host names

Since no reader looks at them, host names can be exchanged for any others. -/

/-- A service under another host name, if it stands under one. -/
def Service.renamed (s : Service) (f : Hostname → Hostname) : Service :=
  { s with hostname := s.hostname.map f }

/-- An endpoint under another host name. -/
def Endpoint.renamed (e : Endpoint) (f : Hostname → Hostname) : Endpoint :=
  { e with hostname := f e.hostname }

namespace Descriptor

/-- **A descriptor with other host names**: each of them is replaced, and all else stays. -/
def renamed (d : Descriptor) (f : Hostname → Hostname) : Descriptor :=
  { d with
    domain := f d.domain
    aliases := d.aliases.map f
    services := d.services.map fun s => s.renamed f
    endpoints := d.endpoints.map fun e => e.renamed f }

/-- A descriptor has a JSON form under any host names. -/
theorem HasJson.renamed {d : Descriptor} (h : d.HasJson) (f : Hostname → Hostname) :
    (d.renamed f).HasJson where
  services := List.forall_mem_map.2 fun s hs => ⟨(h.services s hs).ports, (h.services s hs).extra⟩
  endpoints := List.forall_mem_map.2 h.endpoints

/-- **A descriptor that was read holds to the rules of host names only if the texts in the places of
its names do**, for these are its names; whatever they are, they are not refused: the descriptor can
be read under any others. -/
theorem names_of_ofJson {j : Json} {d : Descriptor} (h : ofJson j = .ok d) :
    textsIn j = d.names.map Hostname.text ∧
      ((∀ name ∈ d.names, Hostname.Grammar name.text) ↔
        ∀ text ∈ textsIn j, Hostname.Grammar text) ∧
      ∀ f, ∃ i, ofJson i = .ok (d.renamed f) := by
  have htexts := textsIn_of_ofJson h
  refine ⟨htexts, ?_, fun f => ?_⟩
  · rw [htexts, List.forall_mem_map]
  · obtain ⟨hd, hcontext⟩ := exists_ofJson_iff.1 ⟨j, h⟩
    exact exists_ofJson_iff.2 ⟨hd.renamed f, hcontext⟩

/-- A descriptor none of whose names is a host name. -/
def misnamed : Descriptor where
  domain := ⟨"-example-.com"⟩
  aliases := [⟨"a..b"⟩]
  customer := "acme"
  ssl := {}
  project := "acme"
  services := [{ name := "web", image := "nginx", hostname := some ⟨"web_1.example.com"⟩ }]
  endpoints := [
    { service := "web", hostname := ⟨""⟩, container := "acme-web", port := 80, labels := {} }]
  context := {
    id := ⟨0x01934f4a000170008000000000000001⟩, time := ⟨20472, 43200, 0⟩, source := .manifest }

/-- Its service as JSON. -/
def misnamedService : Json :=
  .object [("name", .string "web"), ("image", .string "nginx"),
    ("hostname", .string "web_1.example.com")]

/-- Its context as JSON. -/
def misnamedContext : Json :=
  .object [("requestId", .string "01934f4a-0001-7000-8000-000000000001"),
    ("requestedAt", .string "2026-01-19T12:00:00Z"),
    ("source", .object [("kind", .string "manifest")])]

/-- That descriptor as JSON. -/
def misnamedJson : Json :=
  .object [("domain", .string "-example-.com"), ("aliases", .array [.string "a..b"]),
    ("customerId", .string "acme"), ("ssl", .object [("enabled", .bool false)]),
    ("projectName", .string "acme"), ("services", .array [misnamedService]),
    ("endpoints", .array [.object [("service", .string "web"), ("hostname", .string ""),
      ("containerName", .string "acme-web"), ("port", .nat 80), ("labels", .object [])]]),
    ("context", misnamedContext)]

/-- The descriptor is read, whatever its names are. -/
theorem reads_misnamedJson : ofJson misnamedJson = .ok misnamed := by
  have hmisnamed : misnamed.HasJson :=
    ⟨List.forall_mem_singleton.2 ⟨by decide, Value.isJson_mapping_nil⟩, by decide⟩
  have hservices : Decode.list Service.ofJson (.array [misnamedService]) = .ok misnamed.services :=
    by cbv
  have hcontext : RequestContext.ofJson misnamedContext = .ok misnamed.context := by
    decide +kernel
  exact ofJson_members hmisnamed hservices hcontext

/-- None of these texts is a host name, but with others in their place the descriptor is read. -/
theorem names_misnamedJson :
    ofJson misnamedJson = .ok misnamed ∧
      textsIn misnamedJson = ["-example-.com", "a..b", "web_1.example.com", ""] ∧
      ∃ i, ofJson i = .ok (misnamed.renamed fun _ => ⟨"example.com"⟩) := by
  obtain ⟨htexts, -, hothers⟩ := names_of_ofJson reads_misnamedJson
  exact ⟨reads_misnamedJson, htexts, hothers _⟩

/-- **A descriptor may be read none of whose names is a host name.** -/
theorem ofJson_misnamed :
    ofJson misnamedJson = .ok misnamed ∧ ∀ name ∈ misnamed.names, ¬ Hostname.Grammar name.text :=
  ⟨reads_misnamedJson, by decide +kernel⟩

end Descriptor

end Deployment
