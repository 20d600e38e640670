import Mathlib
import Deployment.Proofs.Entries
import Deployment.Proofs.Wire.Value
import Deployment.Wire.Descriptor

/-!
# Proofs/Wire/RoundTrip — what is written as JSON is read again

Nothing is lost when a descriptor or a described deployment is written as JSON (`wire_lossless`).
Each record is read from its members field by field: a member is left out only where its value is
that of a missing one (`Reads.defaulted`, `Reads.optional`), so that what says nothing is not taken
for what is not there.
-/

namespace Deployment

open Json (Decode Fields named)

/-! ## Members that may be left out

A member that is left out is read as its default, so the default must be what was left out. -/

/-- A text that is not there has no member. -/
@[simp] theorem named_textMember (names : List String) (name : String) (text? : Option String) :
    named names (textMember name text?) =
      if name ∈ names then (text?.map Json.string).toList else [] :=
  Json.named_toList_map names name Json.string text?

@[simp] theorem named_listMember {α : Type} (names : List String) (name : String) (as : List α)
    (j : List α → Json) :
    named names (listMember name as j) =
      if name ∈ names then (if as = [] then [] else [j as]) else [] := by
  simp [listMember]

/-! ## Texts, names and credentials -/

theorem list_textsJson (texts : List String) :
    Decode.list Decode.text (textsJson texts) = .ok texts :=
  Decode.list_map fun _ _ => rfl

/-- Texts under names are read in the order in which they were written. -/
theorem pairs_textMembers (es : List (String × String)) :
    Decode.pairs Decode.text (.object (es.map fun (k, v) => (k, .string v))) = .ok es :=
  Decode.pairs_eq_ok_iff.2 ⟨_, rfl,
    List.forall₂_map_left_iff.2 (List.forall₂_same.2 fun _ _ => ⟨rfl, rfl⟩)⟩

/-- A map of texts is read back in its order. -/
theorem TextMap.ofJson_toJson (m : TextMap) : ofJson m.toJson = .ok m :=
  Decode.map_eq_ok_iff.2 ⟨m.entries, pairs_textMembers m.entries, m.ofList_entries⟩

theorem NameSet.ofJson_textsJson (s : NameSet) : ofJson (textsJson s.names) = .ok s :=
  Decode.map_eq_ok_iff.2 ⟨s.names, list_textsJson s.names, s.ofList_names⟩

/-- A host name is read back as it is, without a check. -/
theorem Hostname.ofJson_toJson (h : Hostname) : ofJson h.toJson = .ok h := rfl

theorem Registry.ofJson_toJson (r : Registry) : ofJson r.toJson = .ok r :=
  Decode.record_object_iff.2 <|
    Fields.Reads.map (.optionalText (by simp))
      |>.seq (.optionalText (by simp))
      |>.seq (.optionalText (by simp))

/-! ## Services -/

/-- What a service has to be for a JSON form: its ports have 16 bits, and JSON can hold the keys
that are kept from its manifest. -/
structure Service.HasJson (s : Service) : Prop where
  ports : ∀ p ∈ s.ports, p < 65536
  extra : (Value.mapping s.extra).IsJson

/-- **A service is read as it was written.** -/
theorem Service.exists_toJson {s : Service} (h : s.HasJson) :
    ∃ j, s.toJson = .ok j ∧ ofJson j = .ok s := by
  obtain ⟨extra, hwrite, hread, hnone⟩ := Value.exists_entriesToJson h.extra
  have hports : Decode.list Decode.port (.array (s.ports.map Json.nat)) = .ok s.ports :=
    Decode.list_map fun p hp => Decode.port_eq_ok_iff.2 ⟨h.ports p hp, rfl⟩
  have henvironment : s.environment.entries = [] → ({} : Environment) = s.environment :=
    fun he => TextMap.ext_entries he.symm
  rw [toJson, hwrite]
  refine ⟨_, rfl, Decode.record_object_iff.2 ?_⟩
  -- one step for each field, with the members under its name
  exact Fields.Reads.map (.required (.string s.name) (by simp) rfl)
    |>.seq (.required (.string s.image) (by simp) rfl)
    |>.seq (.defaulted (s.ports = []) _ (by simp) Eq.symm hports)
    |>.seq (.defaulted (s.environment.entries = []) _ (by simp) henvironment
      s.environment.ofJson_toJson)
    |>.seq (.defaulted (s.volumes = []) _ (by simp) Eq.symm (list_textsJson s.volumes))
    |>.seq (.optionalText (by simp))
    |>.seq (.optional Hostname.toJson (by simp [Function.comp_def]; rfl) fun h _ =>
      ⟨nofun, h.ofJson_toJson⟩)
    |>.seq (.optional Registry.toJson (by simp) fun r _ => ⟨nofun, r.ofJson_toJson⟩)
    |>.seq (.defaulted (extra = []) _ (by simp) hnone hread)

/-! ## Endpoints -/

/-- An endpoint is read back when its port has sixteen bits. -/
theorem Endpoint.ofJson_toJson {e : Endpoint} (h : e.port < 65536) : ofJson e.toJson = .ok e :=
  Decode.record_object_iff.2 <|
    Fields.Reads.map (.required (.string e.service) (by simp) rfl)
      |>.seq (.required e.hostname.toJson (by simp) e.hostname.ofJson_toJson)
      |>.seq (.required (.string e.container) (by simp) rfl)
      |>.seq (.required (.nat e.port) (by simp) (Decode.port_eq_ok_iff.2 ⟨h, rfl⟩))
      |>.seq (.required e.labels.toJson (by simp) e.labels.ofJson_toJson)

/-! ## Requests

Identifier and time of a request are written as texts of their own kinds, so reading them back rests
on `RequestContext.TextsRead`. All else is read back as it stands. -/

theorem Ssl.ofJson_toJson (s : Ssl) : ofJson s.toJson = .ok s :=
  Decode.record_object_iff.2 <|
    Fields.Reads.map (.required (.bool s.enabled) (by simp) rfl) |>.seq (.optionalText (by simp))

/-- A tier is read back, leniently or not. -/
theorem ResourceTier.ofJson_toJson (t : ResourceTier) (lax : Bool) :
    ofJson lax t.toJson = .ok t := by
  cases t <;> rfl

theorem DatabaseEngine.ofJson_toJson (e : DatabaseEngine) (lax : Bool) :
    ofJson lax e.toJson = .ok e := by
  cases e <;> rfl

theorem Source.ofJson_toJson (s : Source) : ofJson s.toJson = .ok s := by
  cases s with
  | manifest => exact Decode.tagged_object rfl rfl rfl
  | wizard archetype =>
    exact Decode.tagged_object (by simp) rfl (.map (.required (.string archetype) (by simp) rfl))
  | template id =>
    exact Decode.tagged_object (by simp) rfl (.map (.required (.string id) (by simp) rfl))

/-- Identifier and time of a request have texts that are read as they are. -/
structure RequestContext.TextsRead (c : RequestContext) : Prop where
  id : RequestId.ofText? c.id.toText = some c.id
  time : Instant.ofText c.time.toText = .ok c.time

/-- A request is read back when its texts are. -/
theorem RequestContext.ofJson_toJson {c : RequestContext} (h : c.TextsRead) :
    ofJson c.toJson = .ok c := by
  have hid : RequestId.ofJson (.string c.id.toText) = .ok c.id :=
    Decode.refine_eq_ok_iff.2 ⟨_, rfl, by rw [h.id]; rfl⟩
  have htime : Instant.ofJson (.string c.time.toText) = .ok c.time :=
    Decode.refine_eq_ok_iff.2 ⟨_, rfl, by rw [h.time]; rfl⟩
  exact Decode.record_object_iff.2 <|
    Fields.Reads.map (.required (.string c.id.toText) (by simp) hid)
      |>.seq (.required (.string c.time.toText) (by simp) htime)
      |>.seq (.required c.source.toJson (by simp) c.source.ofJson_toJson)
      |>.seq (.optional ResourceTier.toJson (by simp) fun t _ => ⟨nofun, t.ofJson_toJson false⟩)

/-- Options may be read leniently, but what is written needs no leniency. -/
theorem Wizard.Options.ofJson_toJson (o : Options) (lax : Bool) : ofJson lax o.toJson = .ok o :=
  Decode.record_object_iff.2 <|
    Fields.Reads.map (.optionalText (by simp))
      |>.seq (.optional DatabaseEngine.toJson (by simp) fun e _ => ⟨nofun, e.ofJson_toJson lax⟩)
      |>.seq (.defaulted False (.bool o.cache) (by simp) nofun rfl)
      |>.seq (.defaulted False o.tier.toJson (by simp) nofun (o.tier.ofJson_toJson lax))

/-- Texts bound to names are read in any order. -/
theorem Bindings.ofJson_of_perm {es : List (String × String)} {b : Bindings}
    (h : es.Perm b.entries) :
    ofJson (.object (es.map fun (k, v) => (k, .string v))) = .ok b :=
  Decode.map_eq_ok_iff.2 ⟨es, pairs_textMembers es, ofList_of_perm h⟩

namespace Description

/-- **The JSON values that a described deployment is written as**: the texts for a template stand in
any order. -/
inductive WrittenAs : Description → Json → Prop
  | manifest (text : String) : WrittenAs (manifest text) (manifest text).toJson
  | wizard (archetype : String) (options : Wizard.Options) :
    WrittenAs (wizard archetype options) (wizard archetype options).toJson
  | template (id customerName deployName : String) {supplied : Bindings}
    {es : List (String × String)} : es.Perm supplied.entries →
    WrittenAs (template id customerName deployName supplied)
      (.object [("mode", .string "template"), ("templateId", .string id),
        ("customerName", .string customerName), ("deployName", .string deployName),
        ("variables", .object (es.map fun (k, v) => (k, .string v)))])

/-- The form with the names in ascending order is one of them. -/
theorem writtenAs_toJson : ∀ r : Description, r.WrittenAs r.toJson
  | manifest text => .manifest text
  | wizard archetype options => .wizard archetype options
  | template id customerName deployName _ => .template id customerName deployName (.refl _)

/-- **A described deployment is read as it was written.** -/
theorem ofJson_of_writtenAs {r : Description} {j : Json} (h : r.WrittenAs j) :
    ofJson j = .ok r := by
  cases h with
  | manifest text =>
    exact Decode.tagged_object (by simp) rfl (.map (.required (.string text) (by simp) rfl))
  | wizard archetype options =>
    exact Decode.tagged_object (by simp) rfl <|
      Fields.Reads.map (.required (.string archetype) (by simp) rfl)
        |>.seq (.defaulted False options.toJson (by simp) nofun (options.ofJson_toJson true))
  | template id customerName deployName hes =>
    exact Decode.tagged_object (by simp) rfl <|
      Fields.Reads.map (.required (.string id) (by simp) rfl)
        |>.seq (.required (.string customerName) (by simp) rfl)
        |>.seq (.required (.string deployName) (by simp) rfl)
        |>.seq (.defaulted False _ (by simp) nofun (Bindings.ofJson_of_perm hes))

end Description

/-! ## Descriptors

The services are written first, since their other keys may have no JSON form. What remains is
written and read member by member. -/

namespace Descriptor

/-- **What a descriptor has to be for a JSON form**: its services have one, and the ports of its
endpoints have 16 bits. -/
structure HasJson (d : Descriptor) : Prop where
  services : ∀ s ∈ d.services, s.HasJson
  endpoints : ∀ e ∈ d.endpoints, e.port < 65536

/-- The members of a descriptor, its services and its context in given forms. -/
def members (d : Descriptor) (services : List Json) (context : Json) : List (String × Json) :=
  [("domain", d.domain.toJson), ("aliases", .array (d.aliases.map Hostname.toJson)),
    ("customerId", .string d.customer), ("ssl", d.ssl.toJson),
    ("projectName", .string d.project), ("services", .array services),
    ("endpoints", .array (d.endpoints.map Endpoint.toJson))] ++
    listMember "volumes" d.volumes.names textsJson ++
    (d.registry.map fun r => ("registry", r.toJson)).toList ++ [("context", context)]

theorem toJson_eq (d : Descriptor) :
    d.toJson = (fun js => .object (d.members js d.context.toJson)) <$> servicesToJson d.services :=
  rfl

/-- Services are written and read back in their order. -/
theorem exists_servicesToJson {ss : List Service} (h : ∀ s ∈ ss, s.HasJson) :
    ∃ js, servicesToJson ss = .ok js ∧ Decode.list Service.ofJson (.array js) = .ok ss := by
  simp only [Decode.list_eq_ok_iff]
  induction ss with
  | nil => exact ⟨[], rfl, [], rfl, .nil⟩
  | cons s ss ih =>
    rw [List.forall_mem_cons] at h
    obtain ⟨j, hwrite, hread⟩ := Service.exists_toJson h.1
    obtain ⟨js, hwrites, _, ⟨⟩, hreads⟩ := ih h.2
    refine ⟨j :: js, ?_, _, rfl, .cons hread hreads⟩
    rw [servicesToJson, hwrite, hwrites]
    rfl

/-- **A descriptor is read from its members**, whatever form its context has. -/
theorem ofJson_members {d : Descriptor} (h : d.HasJson) {js : List Json} {context : Json}
    (hservices : Decode.list Service.ofJson (.array js) = .ok d.services)
    (hcontext : RequestContext.ofJson context = .ok d.context) :
    ofJson (.object (d.members js context)) = .ok d := by
  have haliases : Decode.list Hostname.ofJson (.array (d.aliases.map Hostname.toJson)) =
      .ok d.aliases := Decode.list_map fun h _ => h.ofJson_toJson
  have hendpoints : Decode.list Endpoint.ofJson (.array (d.endpoints.map Endpoint.toJson)) =
      .ok d.endpoints := Decode.list_map fun e he => Endpoint.ofJson_toJson (h.endpoints e he)
  have hvolumes : d.volumes.names = [] → ({} : NameSet) = d.volumes :=
    fun he => NameSet.ext_names he.symm
  refine Decode.record_object_iff.2 ?_
  unfold members
  exact Fields.Reads.map (.required d.domain.toJson (by simp) d.domain.ofJson_toJson)
    |>.seq (.required _ (by simp) haliases)
    |>.seq (.required (.string d.customer) (by simp) rfl)
    |>.seq (.required d.ssl.toJson (by simp) d.ssl.ofJson_toJson)
    |>.seq (.required (.string d.project) (by simp) rfl)
    |>.seq (.required _ (by simp) hservices)
    |>.seq (.required _ (by simp) hendpoints)
    |>.seq (.defaulted (d.volumes.names = []) _ (by simp) hvolumes d.volumes.ofJson_textsJson)
    |>.seq (.optional Registry.toJson (by simp) fun r _ => ⟨nofun, r.ofJson_toJson⟩)
    |>.seq (.required context (by simp) hcontext)

/-- **A descriptor is read as it was written.** -/
theorem exists_toJson {d : Descriptor} (h : d.HasJson) (hcontext : d.context.TextsRead) :
    ∃ j, d.toJson = .ok j ∧ ofJson j = .ok d := by
  obtain ⟨js, hwrite, hread⟩ := exists_servicesToJson h.services
  refine ⟨_, ?_, ofJson_members h hread (RequestContext.ofJson_toJson hcontext)⟩
  rw [toJson_eq, hwrite]
  rfl

end Descriptor

/-- **Nothing is lost on the way.**  A descriptor whose kept keys JSON can hold is written, and the
value that it is written as gives it back, and so does every text that is read as this value; a
described deployment is given back by each of the values that it is written as, and by their
texts. -/
theorem wire_lossless :
    (∀ d : Descriptor, d.HasJson → d.context.TextsRead →
      ∃ j, d.toJson = .ok j ∧ d.toText = .ok j.pretty ∧ Descriptor.ofJson j = .ok d ∧
        ∀ text, Json.ReadsAs Descriptor.ofJson.shape text j →
          Json.decodeText Descriptor.ofJson text = .ok d) ∧
    ∀ (r : Description) (j : Json), r.WrittenAs j →
      Description.ofJson j = .ok r ∧
        ∀ text, Json.ReadsAs Description.ofJson.shape text j →
          Json.decodeText Description.ofJson text = .ok r := by
  constructor
  · intro d h hcontext
    obtain ⟨j, hwrite, hread⟩ := Descriptor.exists_toJson h hcontext
    refine ⟨j, hwrite, ?_, hread, fun text htext => Json.decodeText_of_readsAs htext hread⟩
    rw [Descriptor.toText, hwrite]
    rfl
  · intro r j h
    have hread := Description.ofJson_of_writtenAs h
    exact ⟨hread, fun text htext => Json.decodeText_of_readsAs htext hread⟩

/-- A descriptor with two credentials that say nothing, one for a service and one for all, and with
a mapping, a list, a float and null among what a manifest left. -/
def Descriptor.bare : Descriptor where
  domain := ⟨"example.com"⟩
  aliases := [⟨"example.org"⟩]
  customer := "acme"
  ssl := { enabled := true }
  project := "spin-example-com"
  services := [
    { name := "web", image := "nginx", ports := [443, 80],
      environment := .ofList [("B", "2"), ("A", "1")], registry := some {},
      extra := [(.string "deploy", .mapping [
        (.string "weights", .sequence [.number (.float ⟨0x3FF8000000000000⟩), .null])])] },
    { name := "cache", image := "redis", hostname := some ⟨"cache.example.com"⟩ }]
  endpoints := [
    { service := "web"
      hostname := ⟨"example.com"⟩
      container := "spin-example-com-web"
      port := 80
      labels := .ofList [("spinforge.project", "spin-example-com"), ("spinforge.port", "80")] }]
  volumes := .ofList ["data"]
  registry := some {}
  context := {
    id := ⟨1⟩, time := ⟨20472, 43200, 0⟩, source := .template "shop", tier := some .large }

/-- A descriptor with empty credentials and keys of its own, and the text of a manifest. -/
theorem wire_lossless_bare :
    (∃ j, Descriptor.bare.toJson = .ok j ∧ Descriptor.ofJson j = .ok .bare) ∧
      Json.decodeText Description.ofJson
        "\x7b\"mode\":\"manifest\",\"text\":\"services: \"\x7d" =
        .ok (.manifest "services: ") := by
  have hextra : (Value.mapping [(.string "deploy", .mapping [
      (.string "weights", .sequence [.number (.float ⟨0x3FF8000000000000⟩), .null])])]).IsJson :=
    Value.isJson_iff.2 ⟨.object [("deploy", .object [
      ("weights", .array [.number (.float ⟨0x3FF8000000000000⟩), .null])])], by simp, rfl⟩
  have hbare : Descriptor.bare.HasJson := by
    refine ⟨?_, by decide⟩
    simp only [Descriptor.bare, List.forall_mem_cons]
    exact ⟨⟨by decide, hextra⟩, ⟨by decide, Value.isJson_mapping_nil⟩, nofun⟩
  have hcontext : Descriptor.bare.context.TextsRead := ⟨by decide +kernel, by decide +kernel⟩
  have htext : Json.ReadsAs Description.ofJson.shape
      "\x7b\"mode\":\"manifest\",\"text\":\"services: \"\x7d"
      (Description.manifest "services: ").toJson := ⟨by cbv, by cbv⟩
  obtain ⟨j, hwrite, -, hread, -⟩ := wire_lossless.1 _ hbare hcontext
  exact ⟨⟨j, hwrite, hread⟩, (wire_lossless.2 _ _ (Description.writtenAs_toJson _)).2 _ htext⟩

end Deployment
