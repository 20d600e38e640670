import Deployment.Manifest.Writing
import Deployment.Proofs.Manifest.Normal

/-!
# Proofs/Manifest/RoundTrip — documents that are written and read again

A document in the normal form that is written as a manifest is read as it was, but for its warnings
(`Document.ofValue_toValue`).  A field is written only where it has something to say, so each part
of a body is read on its own: its entries as settings, and the settings as the field.
-/

namespace Deployment

namespace Manifest

/-! ## The parts of a body -/

/-- The settings of a field that is written unless it is empty. -/
def listSettings {α : Type} (as : List α) (setting : Setting) : List Setting :=
  if as.isEmpty then [] else [setting]

/-- The values of ports. -/
def portValues (ports : List Nat) : List Value := ports.map fun (p : Nat) => .number (.int p)

/-- The settings that the fields of a service are read as. -/
def fieldSettings (s : Service) : List Setting :=
  (if s.isCustomBuild then [] else [.image]) ++
    listSettings s.ports (.ports (portValues s.ports)) ++
    listSettings s.environment.entries (.environment s.environment []) ++
    listSettings s.volumes (.volumes (s.volumes.map .string)) ++
    (s.subdomain.map Setting.subdomain).toList ++
    (s.registry.map Setting.registry).toList

/-- Whether entries are read as settings, one by one. -/
def ReadsAs (service : String) : List (Value × Value) → List Setting → Prop :=
  List.Forall₂ fun e s => setting service e = .ok s

theorem ReadsAs.append {service : String} {es fs : List (Value × Value)} {ss ts : List Setting}
    (h : ReadsAs service es ss) (h' : ReadsAs service fs ts) :
    ReadsAs service (es ++ fs) (ss ++ ts) := List.rel_append h h'

theorem ReadsAs.single {service : String} {e : Value × Value} {s : Setting}
    (h : setting service e = .ok s) : ReadsAs service [e] [s] := .cons h .nil

/-- A list that is empty is not written, and none is read. -/
theorem readsAs_listEntry {service key : String} {α : Type} {as : List α} {v : List α → Value}
    {s : Setting} (h : setting service (entry key (v as)) = .ok s) :
    ReadsAs service (listEntry key as v) (listSettings as s) := by
  rw [listEntry, listSettings]
  split
  · exact .nil
  · exact .single h

/-! ## Entries that are read as they were written

Each field is written under one key, in the one form that its reader takes without a warning. -/

/-- Ports are written as a list. -/
theorem listEntry_ports (service : String) (ports : List Nat) :
    setting service (entry "ports" (.sequence (portValues ports))) =
      .ok (.ports (portValues ports)) := by
  simp only [setting, entry, Value.asString?]
  rfl

theorem listEntry_volumes (service : String) (volumes : List String) :
    setting service (entry "volumes" (.sequence (volumes.map .string))) =
      .ok (.volumes (volumes.map .string)) := by
  simp only [setting, entry, Value.asString?]
  rfl

theorem textEntry_subdomain (service text : String) :
    setting service (entry "x-subdomain" (.string text)) = .ok (.subdomain text) := by
  simp only [setting, entry, Value.asString?]
  rfl

/-- A variable with a name is read as it was written, and without a warning. -/
theorem variableOf?_entry {e : String × String} (h : e.1 ≠ "") (service : String) :
    variableOf? (entry e.1 (.string e.2)) = some e ∧
      variableWarning? service (entry e.1 (.string e.2)) = none := by
  have hkey : variableKey? (.string e.1) = some e.1 := by
    simp [variableKey?, Value.scalarText?, Option.filter, h]
  rw [entry, variableOf?, variableWarning?, hkey]
  exact ⟨rfl, rfl⟩

/-- Variables with names are read as they were written, without a warning. -/
theorem environment_written {e : Environment} (h : ∀ key ∈ e.keys, key ≠ "") (service : String) :
    environment service (.mapping (e.entries.map fun (k, v) => entry k (.string v))) =
      .ok (e, []) := by
  have hentry (f : String × String) (hf : f ∈ e.entries) :
      variableOf? (entry f.1 (.string f.2)) = some f ∧
        variableWarning? service (entry f.1 (.string f.2)) = none :=
    variableOf?_entry (h f.1 (List.mem_map_of_mem hf)) service
  have hvariables : (e.entries.map fun (k, v) => entry k (.string v)).filterMap variableOf? =
      e.entries := by
    rw [List.filterMap_map]
    exact (List.filterMap_congr fun f hf => (hentry f hf).1).trans List.filterMap_some
  have hwarnings : (e.entries.map fun (k, v) => entry k (.string v)).filterMap
      (variableWarning? service) = [] := by
    rw [List.filterMap_map, List.filterMap_eq_nil_iff]
    exact fun f hf => (hentry f hf).2
  rw [environment, hvariables, hwarnings, TextMap.ofList_entries]
  rfl

theorem mappingEntry_environment {service : String} {v : Value} {e : Environment}
    {ws : List Warning} (h : environment service v = .ok (e, ws)) :
    setting service (entry "environment" v) = .ok (.environment e ws) := by
  simp only [setting, entry, Value.asString?, h]
  rfl

/-- The fields of credentials are found under their keys. -/
theorem lookup_registryFields (url username password : Option String) :
    let fields := textEntry "url" url ++ textEntry "username" username ++
      textEntry "password" password
    Value.lookup "url" fields = url.map .string ∧
      Value.lookup "username" fields = username.map .string ∧
      Value.lookup "password" fields = password.map .string := by
  cases url <;> cases username <;> cases password <;>
    simp [Value.lookup, Entries.find?, textEntry, entry, Value.same]

/-- Credentials that are given are written, and read as given. -/
theorem registry_written {r : Registry} (h : r.Normal) (service : String) :
    registry service (registryMapping r) = .ok r := by
  obtain ⟨url, username, password⟩ := r
  have hfield {text? : Option String} (ht : text? ≠ some "") :
      ((text?.map Value.string).bind Value.scalarText?).filter (fun s => !s.isEmpty) = text? := by
    cases text? with
    | none => rfl
    | some text =>
      have hne : text ≠ "" := fun h => ht (h ▸ rfl)
      simp [Value.scalarText?, Option.filter, hne]
  obtain ⟨hurl, husername, hpassword⟩ := lookup_registryFields url username password
  simp only [registry, registryMapping, Value.asMapping?, hurl, husername, hpassword]
  rw [hfield (h url (by simp)), hfield (h username (by simp)), hfield (h password (by simp))]
  rfl

theorem mappingEntry_registry {r : Registry} (h : r.Normal) (service : String) :
    setting service (entry "x-registry" (registryMapping r)) = .ok (.registry r) := by
  simp only [setting, entry, Value.asString?, registry_written h]
  rfl

/-- **The fields of a service are read as its settings.** -/
theorem readsAs_serviceFields {s : Service} (h : s.Tidy) (service : String) :
    ReadsAs service (serviceFields s) (fieldSettings s) := by
  rw [serviceFields, fieldSettings]
  refine .append (.append (.append (.append (.append ?_ ?_) ?_) ?_) ?_) ?_
  · split
    · exact .nil
    · exact .single rfl
  · exact readsAs_listEntry (listEntry_ports service s.ports)
  · exact readsAs_listEntry (mappingEntry_environment (environment_written h.environment service))
  · exact readsAs_listEntry (listEntry_volumes service s.volumes)
  · cases s.subdomain with
    | none => exact .nil
    | some text => exact .single (textEntry_subdomain service text)
  · cases hr : s.registry with
    | none => exact .nil
    | some r => exact .single (mappingEntry_registry (h.registry r hr) service)

/-! ## The service of a body

The settings of a written body give back its fields. An empty field is not written and is the
default of a draft. -/

/-- A setting of an empty list is not there, and would not have changed anything. -/
theorem foldl_listSettings {α : Type} {as : List α} {setting : Setting} {draft draft' : Draft}
    (hnil : as = [] → draft = draft') (happly : draft.apply setting = draft') :
    (listSettings as setting).foldl Draft.apply draft = draft' := by
  rw [listSettings]
  split
  · exact hnil (List.isEmpty_iff.1 ‹_›)
  · exact happly

/-- A port in the range is read as the port. -/
theorem entryPort?_written {p : Nat} (h : 0 < p ∧ p < 65536) :
    entryPort? (.number (.int p)) = some p := by
  have hrange : (0 : Int) < p ∧ (p : Int) < 65536 := by omega
  exact (if_pos hrange).trans (congrArg some (Int.toNat_natCast p))

theorem ports_written {ps : List Nat} (h : ∀ p ∈ ps, 0 < p ∧ p < 65536) (service : String) :
    ports (portValues ps) = ps ∧ portWarnings service (portValues ps) = [] := by
  have hport (p : Nat) (hp : p ∈ ps) : entryPort? (.number (.int p)) = some p :=
    entryPort?_written (h p hp)
  constructor
  · rw [ports, portValues, List.filterMap_map]
    exact (List.filterMap_congr hport).trans List.filterMap_some
  · rw [portWarnings, portValues, List.filterMap_map, List.filterMap_eq_nil_iff]
    intro p hp
    simp [hport p hp]

theorem volumes_written (vs : List String) (service : String) :
    volumes (vs.map .string) = vs ∧ volumeWarnings service (vs.map .string) = [] := by
  constructor
  · rw [volumes, List.filterMap_map]
    exact List.filterMap_some
  · rw [volumeWarnings, List.filterMap_map, List.filterMap_eq_nil_iff]
    exact fun _ _ => rfl

/-- **The settings of the fields make the service**, but for its other keys. -/
theorem applied_fieldSettings {s : Service} (h : s.Tidy) :
    applied s.name s.image (fieldSettings s) = ({ s with extra := [] }, []) := by
  obtain ⟨name, image, ps, environment, vs, subdomain, hostname, registry, extra⟩ := s
  obtain rfl : hostname = none := h.hostname
  obtain ⟨hports, hportWarnings⟩ := ports_written h.ports name
  obtain ⟨hvolumes, hvolumeWarnings⟩ := volumes_written vs name
  have himage (c : Bool) (draft : Draft) :
      (if c then [] else [Setting.image]).foldl Draft.apply draft = draft := by
    cases c <;> rfl
  have hps : (listSettings ps (.ports (portValues ps))).foldl Draft.apply ({ name, image }, []) =
      ({ name, image, ports := ps }, []) :=
    foldl_listSettings (fun hnil => by rw [hnil]) (by
      rw [Draft.apply, hports, hportWarnings, List.nil_append])
  have henv : (listSettings environment.entries (.environment environment [])).foldl Draft.apply
      ({ name, image, ports := ps }, []) = ({ name, image, ports := ps, environment }, []) :=
    foldl_listSettings (fun hnil => by rw [show environment = {} from TextMap.ext_entries hnil]) rfl
  have hvs : (listSettings vs (.volumes (vs.map .string))).foldl Draft.apply
      ({ name, image, ports := ps, environment }, []) =
        ({ name, image, ports := ps, environment, volumes := vs }, []) :=
    foldl_listSettings (fun hnil => by rw [hnil]) (by
      rw [Draft.apply, hvolumes, hvolumeWarnings, List.nil_append])
  simp only [applied, fieldSettings, List.foldl_append, himage, hps, henv, hvs]
  cases subdomain <;> cases registry <;> rfl

/-- The settings of other keys put them behind those that are there. -/
theorem foldl_extra {es : List (Value × Value)} {s : Service} {ws : List Warning}
    (hes : Entries.Apart Value.same es) (hs : s.extra = []) :
    (es.map fun e => Setting.extra e.1 e.2).foldl Draft.apply (s, ws) =
      ({ s with extra := es }, ws) := by
  have hfold : ∀ (es : List (Value × Value)) (t : Service),
      (es.map fun e => Setting.extra e.1 e.2).foldl Draft.apply (t, ws) =
        ({ t with extra := es.foldl (fun acc e => Entries.insert Value.same e.1 e.2 acc) t.extra },
          ws) := by
    intro es
    induction es with
    | nil => exact fun _ => rfl
    | cons e es ih => exact fun t => ih _
  rw [hfold, hs, Entries.foldl_insert hes (List.forall_mem_nil _), List.nil_append]

/-- **The settings of a service make the service.** -/
theorem drafted_settings {s : Service} (h : s.Normal) :
    drafted s.name s.image (fieldSettings s ++ s.extra.map fun e => .extra e.1 e.2) = (s, []) := by
  have happlied : applied s.name s.image (fieldSettings s ++ s.extra.map fun e => .extra e.1 e.2) =
      (s, []) := by
    rw [applied, List.foldl_append, ← applied, applied_fieldSettings h.toTidy,
      foldl_extra h.extra_apart rfl]
  have hfragment : s.subdomain.or (s.label? Service.subdomainLabel) = s.subdomain := by
    cases hs : s.subdomain with
    | none => rw [h.fragment hs, Option.or_none]
    | some text => exact Option.some_or
  rw [drafted, happlied, withLabelledFragment, hfragment]

/-! ## Bodies

The entries that are kept have no key with a meaning, so they are read as they were, behind the
fields. -/

/-- A field that is written has its own key. -/
theorem key_of_mem_listEntry {α : Type} {key : String} {as : List α} {v : List α → Value}
    {e : Value × Value} (h : e ∈ listEntry key as v) : e.1 = .string key := by
  rw [listEntry] at h
  split at h
  · exact nomatch h
  · rw [List.mem_singleton.1 h, entry]

theorem key_of_mem_textEntry {key : String} {text? : Option String} {e : Value × Value}
    (h : e ∈ textEntry key text?) : e.1 = .string key := by
  obtain ⟨text, -, rfl⟩ := Option.map_eq_some_iff.1 (Option.mem_toList.1 h)
  rfl

/-- The fields of a service other than its image. -/
def otherFields (s : Service) : List (Value × Value) :=
  listEntry "ports" s.ports (fun ps => .sequence (portValues ps)) ++
    listEntry "environment" s.environment.entries
      (fun es => .mapping (es.map fun (k, v) => entry k (.string v))) ++
    listEntry "volumes" s.volumes (fun vs => .sequence (vs.map .string)) ++
    textEntry "x-subdomain" s.subdomain ++
    (s.registry.map fun r => entry "x-registry" (registryMapping r)).toList

/-- The image stands first, if it was given. -/
theorem serviceFields_eq (s : Service) :
    serviceFields s =
      (if s.isCustomBuild then [] else [entry "image" (.string s.image)]) ++ otherFields s := by
  simp only [serviceFields, otherFields, List.append_assoc]
  rfl

theorem key_of_mem_otherFields {s : Service} {e : Value × Value} (h : e ∈ otherFields s) :
    ∃ name ∈ settingKeys, name ≠ "image" ∧ e.1 = .string name := by
  simp only [otherFields, List.mem_append] at h
  rcases h with (((h | h) | h) | h) | h
  · exact ⟨"ports", by decide, by decide, key_of_mem_listEntry h⟩
  · exact ⟨"environment", by decide, by decide, key_of_mem_listEntry h⟩
  · exact ⟨"volumes", by decide, by decide, key_of_mem_listEntry h⟩
  · exact ⟨"x-subdomain", by decide, by decide, key_of_mem_textEntry h⟩
  · obtain ⟨r, -, rfl⟩ := Option.map_eq_some_iff.1 (Option.mem_toList.1 h)
    exact ⟨"x-registry", by decide, by decide, rfl⟩

/-- Every field that is written has a key with a meaning. -/
theorem key_of_mem_serviceFields {s : Service} {e : Value × Value} (h : e ∈ serviceFields s) :
    ∃ name ∈ settingKeys, e.1 = .string name := by
  rw [serviceFields_eq, List.mem_append] at h
  rcases h with h | h
  · split at h
    · exact nomatch h
    · rw [List.mem_singleton.1 h]
      exact ⟨"image", by decide, rfl⟩
  · obtain ⟨name, hname, -, hkey⟩ := key_of_mem_otherFields h
    exact ⟨name, hname, hkey⟩

/-- A key without a meaning is read as it is. -/
theorem setting_of_avoids {key : Value} (h : key.Avoids settingKeys) (v : Value)
    (service : String) : setting service (key, v) = .ok (.extra key v) := by
  rw [setting]
  split
  case h_7 => rfl
  all_goals exact absurd ‹_› (h _ (by decide))

theorem ne_string_of_avoids {names : List String} {key : Value} (h : key.Avoids names)
    {name : String} (hname : name ∈ names) : key ≠ .string name := by
  rintro rfl
  exact h name hname rfl

/-- Among keys that avoid a text no key is the text. -/
theorem absent_of_avoids {names : List String} {es : List (Value × Value)}
    (h : ∀ e ∈ es, e.1.Avoids names) {name : String} (hname : name ∈ names) :
    Entries.has Value.same (.string name) es = false := by
  rw [Entries.has_eq_false_iff]
  intro e he
  rw [← Bool.not_eq_true, Value.same_string_iff]
  exact ne_string_of_avoids (h e he) hname

/-- **The other keys stand behind the fields in a body.** -/
theorem serviceBody_eq {s : Service} (h : s.Tidy) :
    serviceBody s = .mapping (serviceFields s ++ s.extra) := by
  rw [serviceBody]
  congr 1
  refine Entries.foldl_insert h.extra_apart fun a ha e he => ?_
  obtain ⟨name, hname, hkey⟩ := key_of_mem_serviceFields ha
  rw [hkey, ← Bool.not_eq_true, Value.string_same_iff]
  exact ne_string_of_avoids (h.extra e he) hname

/-- **The image of a body is the one that was written**, the image of what is built included. -/
theorem image_written {s : Service} (h : s.Tidy) (service : String) :
    image service (serviceFields s ++ s.extra) = .ok s.image := by
  have hrest : Value.lookup "image" (otherFields s ++ s.extra) = none := by
    rw [Value.lookup, Entries.find?_eq_none_iff, Entries.has_eq_false_iff]
    intro e he
    rw [← Bool.not_eq_true, Value.same_string_iff]
    rcases List.mem_append.1 he with he | he
    · obtain ⟨name, -, hne, hkey⟩ := key_of_mem_otherFields he
      rw [hkey, Value.string.injEq]
      exact hne
    · exact ne_string_of_avoids (h.extra e he) (by decide)
  rw [image, serviceFields_eq, List.append_assoc]
  by_cases hbuild : s.isCustomBuild = true
  · rw [if_pos hbuild, List.nil_append, hrest]
    exact congrArg Except.ok (beq_iff_eq.1 hbuild).symm
  · have hfound : Value.lookup "image" ([entry "image" (.string s.image)] ++
        (otherFields s ++ s.extra)) = some (.string s.image) := by
      simp [Value.lookup, Entries.find?, entry, Value.same]
    rw [if_neg hbuild, hfound]
    rfl

/-- The other keys are read as they were written. -/
theorem readsAs_extra {es : List (Value × Value)} (h : ∀ e ∈ es, e.1.Avoids settingKeys)
    (service : String) : ReadsAs service es (es.map fun e => .extra e.1 e.2) := by
  induction es with
  | nil => exact .nil
  | cons e es ih =>
    rw [List.forall_mem_cons] at h
    exact .cons (setting_of_avoids h.1 e.2 service) (ih h.2)

/-- **A service that was written is read as it was**, without a warning. -/
theorem service_written {s : Service} (h : s.Normal) :
    service s.name (serviceBody s) = .ok (s, []) := by
  refine service_eq_ok_iff.2 ⟨serviceFields s ++ s.extra, s.image, _, ?_, image_written h.toTidy _,
    (readsAs_serviceFields h.toTidy s.name).append (readsAs_extra h.extra s.name),
    drafted_settings h⟩
  rw [serviceBody_eq h.toTidy]
  exact .mapping _

/-! ## Manifests

A document is written with its services in front. Reading them needs their names, what stands behind
needs only the normal form. -/

/-- The entry of the declared volumes, if there are any. -/
def volumesPart (d : Document) : List (Value × Value) :=
  if d.volumes.names.isEmpty then []
  else [entry "volumes" (.mapping (d.volumes.names.map fun name => entry name (.mapping [])))]

/-- The entries of the services. -/
def serviceEntries (d : Document) : List (Value × Value) :=
  d.services.map fun (name, s) => entry name (serviceBody s)

/-- **The services stand behind the extensions in a manifest, and the volumes behind them.** -/
theorem toEntries_eq {d : Document} (h : d.Normal) :
    d.toEntries = d.extensions ++ [entry "services" (.mapping (serviceEntries d))] ++
      volumesPart d := by
  have hvolumes : Entries.has Value.same (.string "volumes")
      (d.extensions ++ [entry "services" (.mapping (serviceEntries d))]) = false := by
    rw [Entries.has, List.any_append, ← Entries.has, absent_of_avoids h.extensions (by decide)]
    rfl
  rw [Document.toEntries, Entries.insert_of_has_eq_false
    (absent_of_avoids h.extensions (by decide)),
    Document.volumesEntry, volumesPart]
  split
  · exact (List.append_nil _).symm
  · exact Entries.insert_of_has_eq_false hvolumes

theorem lookup_services {d : Document} (h : d.Normal) :
    Value.lookup "services" d.toEntries = some (.mapping (serviceEntries d)) := by
  rw [toEntries_eq h, Value.lookup, List.append_assoc,
    Entries.find?_append_of_has_eq_false (absent_of_avoids h.extensions (by decide))]
  rfl

/-- **The entries of the services are read as the services.** -/
theorem reads_serviceEntries {d : Document} (h : d.Normal) :
    List.Forall₂ Reads (serviceEntries d) (d.services.map fun e => (e.2, [])) := by
  rw [serviceEntries, List.forall₂_map_left_iff, List.forall₂_map_right_iff, List.forall₂_same]
  rintro ⟨name, s⟩ he
  obtain rfl : s.name = name := h.keys _ he
  refine ⟨.text (h.names_not_blank _ (List.mem_map_of_mem he)), service_written (h.services _ he)⟩

/-- The extensions are put back in their order. -/
theorem foldl_extensions {es : List (Value × Value)} (h : ∀ e ∈ es, e.1.Avoids rootKeys)
    (hes : Entries.Apart Value.same es) {d : Document} (hd : d.extensions = []) :
    es.foldl withEntry d = { d with extensions := es } := by
  have hfold : ∀ d : Document, es.foldl withEntry d =
      { d with extensions :=
          es.foldl (fun acc e => Entries.insert Value.same e.1 e.2 acc) d.extensions } := by
    clear hes hd d
    induction es with
    | nil => exact fun _ => rfl
    | cons e es ih =>
      rw [List.forall_mem_cons] at h
      intro d
      rw [List.foldl_cons, withEntry_extension (h.1 "services" (by decide))
        (h.1 "volumes" (by decide))]
      exact ih h.2 _
  rw [hfold, hd, Entries.foldl_insert hes (List.forall_mem_nil _), List.nil_append]

/-- The volumes are declared again. -/
theorem foldl_volumesPart (d d' : Document) (hd' : d'.volumes = {}) :
    (volumesPart d).foldl withEntry d' = { d' with volumes := d.volumes } := by
  have hnames : volumeNames (.mapping (d.volumes.names.map fun name => entry name (.mapping []))) =
      d.volumes.names := by
    rw [volumeNames, List.filterMap_map]
    exact List.filterMap_some
  have hset : d.volumes.names.foldl NameSet.insert d'.volumes = d.volumes := by
    rw [hd']
    exact NameSet.ofList_names d.volumes
  rw [volumesPart]
  split
  · obtain hnil := List.isEmpty_iff.1 ‹_›
    rw [hnil] at hset
    rw [← hset]
    rfl
  · rw [List.foldl_cons, withEntry_volumes rfl, entry, hnames, declaring_eq, hset]
    rfl

/-- The drafts of the services make the services. -/
theorem withDrafts_services {d : Document} (h : d.Normal) :
    withDrafts {} (d.services.map fun e => (e.2, [])) = { services := d.services } := by
  have hservices : (d.services.map fun e => (e.2.name, e.2)) = d.services := by
    calc (d.services.map fun e => (e.2.name, e.2))
      _ = d.services.map id := List.map_congr_left fun e he => Prod.ext (h.keys e he) rfl
      _ = d.services := List.map_id d.services
  have hwarnings : (d.services.map fun e => ((e.2, []) : Draft)).flatMap Prod.snd = [] := by
    rw [List.flatMap_map, List.flatMap_eq_nil_iff]
    exact fun _ _ => rfl
  rw [withDrafts, hwarnings, List.map_map]
  exact congrArg (fun services => ({ services } : Document)) hservices

/-- The names that are read are those that were written. -/
theorem nodup_names {d : Document} (h : d.Normal) :
    ((d.services.map fun e => ((e.2, []) : Draft)).map fun draft => draft.1.name).Nodup := by
  have hnames : (d.services.map fun e => ((e.2, []) : Draft)).map (fun draft => draft.1.name) =
      d.names := by
    rw [List.map_map]
    exact List.map_congr_left h.keys
  rw [hnames]
  exact h.names_nodup

/-- What stands under `volumes` declares volumes. -/
theorem declaresVolumes_written {d : Document} (h : d.Normal) :
    ∀ e ∈ d.toEntries, e.1.asString? = some "volumes" → DeclaresVolumes e.2 := by
  intro e he hkey
  rw [toEntries_eq h, List.mem_append, List.mem_append, List.mem_singleton] at he
  rcases he with (he | rfl) | he
  · exact absurd hkey (h.extensions e he "volumes" (by decide))
  · exact absurd hkey (by simp [entry, Value.asString?])
  · rw [volumesPart] at he
    split at he
    · exact absurd he List.not_mem_nil
    · rw [List.mem_singleton.1 he]
      refine .mapping fun e he => ?_
      obtain ⟨name, -, rfl⟩ := List.mem_map.1 he
      exact .string name

end Manifest

/-- **A document in the normal form that is written is read as it was**, but for its warnings. -/
theorem Document.ofValue_toValue {d : Document} (h : d.Normal) :
    ofValue d.toValue = .ok { d with warnings := [] } := by
  refine ofValue_eq_ok_iff.2 ⟨d.toEntries, Manifest.serviceEntries d,
    d.services.map fun e => (e.2, []), rfl, Manifest.lookup_services h,
    Manifest.reads_serviceEntries h, Manifest.nodup_names h, Manifest.declaresVolumes_written h, ?_⟩
  rw [Manifest.toEntries_eq h, List.foldl_append, List.foldl_append,
    Manifest.withDrafts_services h, Manifest.foldl_extensions h.extensions h.extensions_apart rfl,
    List.foldl_cons, Manifest.withEntry_services rfl, List.foldl_nil,
    Manifest.foldl_volumesPart d _ rfl]

end Deployment
