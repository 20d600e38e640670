import Deployment.Proofs.Entries
import Deployment.Proofs.Manifest.Reading

/-!
# Proofs/Manifest/Normal — the documents that manifests become

A document that was read is in a normal form: ports are in their range, no variable and no
credential is without a text, and what has no meaning here has no key that has one.  An entry of a
body is read as one of a few settings (`Sets`).  Every setting keeps a service in the form
(`Draft.tidy_apply`) and every entry keeps the document in it (`normal_withEntry`), so whatever was
read is (`Document.normal_of_ofValue`).
-/

namespace Deployment

/-! ## Services -/

/-- The keys of the body of a service that have a meaning. -/
def Manifest.settingKeys : List String :=
  ["image", "ports", "environment", "volumes", "x-subdomain", "x-registry"]

/-- The keys of a manifest that have a meaning. -/
def Manifest.rootKeys : List String := ["services", "volumes"]

/-- Whether a key says none of some texts. -/
def Value.Avoids (names : List String) (key : Value) : Prop :=
  ∀ name ∈ names, key.asString? ≠ some name

/-- Whether no text that is given is empty. -/
def Registry.Normal (r : Registry) : Prop :=
  ∀ text? ∈ [r.url, r.username, r.password], text? ≠ some ""

/-- **A service whose fields are as they are read**, before its label is looked at. -/
structure Service.Tidy (s : Service) : Prop where
  ports : ∀ p ∈ s.ports, 0 < p ∧ p < 65536
  environment : ∀ key ∈ s.environment.keys, key ≠ ""
  registry : ∀ r, s.registry = some r → r.Normal
  hostname : s.hostname = none
  extra : ∀ e ∈ s.extra, e.1.Avoids Manifest.settingKeys
  extra_apart : Entries.Apart Value.same s.extra

/-- **A service as it is read.** One that asks for no fragment has no label that asks for one. -/
structure Service.Normal (s : Service) : Prop extends s.Tidy where
  fragment : s.subdomain = none → s.label? Service.subdomainLabel = none

/-- **A document as it is read.** -/
structure Document.Normal (d : Document) : Prop where
  keys : ∀ e ∈ d.services, e.2.name = e.1
  names_nodup : d.names.Nodup
  names_not_blank : ∀ name ∈ d.names, ¬ Text.isBlankText name = true
  services : ∀ e ∈ d.services, e.2.Normal
  extensions : ∀ e ∈ d.extensions, e.1.Avoids Manifest.rootKeys
  extensions_apart : Entries.Apart Value.same d.extensions

namespace Manifest

/-! ## Settings

Every reader leaves out what cannot be used: variables without a name, credentials without a text,
ports out of range. So what it returns has none of them. -/

/-- **What a setting can say.** -/
def Setting.Tidy : Setting → Prop
  | .environment e _ => ∀ key ∈ e.keys, key ≠ ""
  | .registry r => r.Normal
  | .extra key _ => key.Avoids settingKeys
  | _ => True

/-- A variable of a mapping has a name. -/
theorem ne_empty_of_variableOf? {e : Value × Value} {key text : String}
    (h : variableOf? e = some (key, text)) : key ≠ "" := by
  have hkey : variableKey? e.1 = some key := by
    simp only [variableOf?, Option.bind_eq_bind, Option.bind_eq_some_iff] at h
    obtain ⟨_, hkey, _, -, heq⟩ := h
    rwa [← (Prod.mk.inj (Option.some.inj heq)).1]
  simpa [String.isEmpty_iff] using (Option.filter_eq_some_iff.1 hkey).2

theorem ne_empty_of_assignment? {v : Value} {key text : String}
    (h : assignment? v = some (key, text)) : key ≠ "" := by
  simp only [assignment?, Option.bind_eq_bind, Option.bind_eq_some_iff] at h
  obtain ⟨_, -, ⟨k, rest⟩, -, hcut⟩ := h
  have hk : ¬ k.isEmpty = true ∧ (k, rest) = (key, text) := by simpa using hcut
  obtain ⟨hk, heq⟩ := hk
  rwa [(Prod.mk.inj heq).1, String.isEmpty_iff] at hk

/-- Variables that are taken from entries have the keys that these give. -/
theorem keys_ofList_filterMap {α : Type} {f : α → Option (String × String)}
    (hf : ∀ a key text, f a = some (key, text) → key ≠ "") (as : List α) :
    ∀ key ∈ (TextMap.ofList (as.filterMap f)).keys, key ≠ "" := by
  intro key hkey
  obtain ⟨e, he, rfl⟩ := List.mem_map.1 (TextMap.mem_keys_ofList hkey)
  obtain ⟨a, -, ha⟩ := List.mem_filterMap.1 he
  exact hf a e.1 e.2 ha

/-- No variable that was read is without a name. -/
theorem keys_environment {service : String} {v : Value} {e : Environment} {ws : List Warning}
    (h : environment service v = .ok (e, ws)) : ∀ key ∈ e.keys, key ≠ "" := by
  cases v with
  | null =>
    obtain ⟨rfl, -⟩ := Prod.mk.inj (Outcome.pure_eq_ok.1 h)
    exact nofun
  | mapping vars =>
    obtain ⟨rfl, -⟩ := Prod.mk.inj (Outcome.pure_eq_ok.1 h)
    exact keys_ofList_filterMap (fun _ _ _ => ne_empty_of_variableOf?) vars
  | sequence entries =>
    obtain ⟨rfl, -⟩ := Prod.mk.inj (Outcome.pure_eq_ok.1 h)
    exact keys_ofList_filterMap (fun _ _ _ => ne_empty_of_assignment?) entries
  | _ => exact nomatch h

/-- An empty credential is read as none. -/
theorem normal_registry {service : String} {v : Value} {r : Registry}
    (h : registry service v = .ok r) : r.Normal := by
  rw [registry] at h
  cases hv : v.asMapping? with
  | none =>
    rw [hv] at h
    exact nomatch h
  | some entries =>
    rw [hv] at h
    obtain rfl := Outcome.pure_eq_ok.1 h
    have hfield (text? : Option String) : (text?.filter fun s => !s.isEmpty) ≠ some "" := by
      intro heq
      exact nomatch (Option.filter_eq_some_iff.1 heq).2
    intro text? hmem
    simp only [List.mem_cons, List.not_mem_nil, or_false] at hmem
    rcases hmem with rfl | rfl | rfl
    · exact hfield _
    · exact hfield _
    · exact hfield _

/-- **How an entry of a body is read as a setting**: by the name that its key spells. -/
inductive Sets (service : String) : Value × Value → Setting → Prop
  | image {k v : Value} : k.asString? = some "image" → Sets service (k, v) .image
  | ports {k v : Value} {entries : List Value} : k.asString? = some "ports" →
    listEntries (.portsNotList service) v = .ok entries → Sets service (k, v) (.ports entries)
  | environment {k v : Value} {env : Environment} {ws : List Warning} :
    k.asString? = some "environment" → environment service v = .ok (env, ws) →
    Sets service (k, v) (.environment env ws)
  | volumes {k v : Value} {entries : List Value} : k.asString? = some "volumes" →
    listEntries (.volumesNotList service) v = .ok entries → Sets service (k, v) (.volumes entries)
  | subdomain {k v : Value} {text : String} : k.asString? = some "x-subdomain" →
    v.scalarText? = some text → Sets service (k, v) (.subdomain text)
  | registry {k v : Value} {r : Registry} : k.asString? = some "x-registry" →
    registry service v = .ok r → Sets service (k, v) (.registry r)
  | extra {k v : Value} : k.Avoids settingKeys → Sets service (k, v) (.extra k v)

/-- What an entry is read as is told by its key. -/
theorem sets_of_setting {service : String} {e : Value × Value} {s : Setting}
    (h : setting service e = .ok s) : Sets service e s := by
  obtain ⟨key, v⟩ := e
  rw [setting] at h
  split at h
  case h_1 hkey =>
    obtain rfl := Outcome.pure_eq_ok.1 h
    exact .image hkey
  case h_2 hkey =>
    obtain ⟨entries, hentries, rfl⟩ := Outcome.map_eq_ok.1 h
    exact .ports hkey hentries
  case h_3 hkey =>
    obtain ⟨⟨env, ws⟩, henv, heq⟩ := Outcome.bind_eq_ok.1 h
    obtain rfl := Outcome.pure_eq_ok.1 heq
    exact .environment hkey henv
  case h_4 hkey =>
    obtain ⟨entries, hentries, rfl⟩ := Outcome.map_eq_ok.1 h
    exact .volumes hkey hentries
  case h_5 hkey =>
    cases hv : v.scalarText? with
    | none =>
      rw [hv] at h
      exact nomatch h
    | some text =>
      rw [hv] at h
      obtain rfl := Outcome.pure_eq_ok.1 h
      exact .subdomain hkey hv
  case h_6 hkey =>
    obtain ⟨r, hr, rfl⟩ := Outcome.map_eq_ok.1 h
    exact .registry hkey hr
  case h_7 himage hports henvironment hvolumes hsubdomain hregistry =>
    obtain rfl := Outcome.pure_eq_ok.1 h
    refine .extra fun name hname => ?_
    simp only [settingKeys, List.mem_cons, List.not_mem_nil, or_false] at hname
    rcases hname with rfl | rfl | rfl | rfl | rfl | rfl <;> assumption

/-- Every setting that was read is tidy. -/
theorem tidy_setting {service : String} {e : Value × Value} {s : Setting}
    (h : setting service e = .ok s) : s.Tidy := by
  cases sets_of_setting h with
  | environment _ henv => exact keys_environment henv
  | registry _ hr => exact normal_registry hr
  | extra havoids => exact havoids
  | image _ | ports _ _ | volumes _ _ | subdomain _ _ => trivial

/-- A text that is a port is one in the range. -/
theorem portOfText?_range {cs : List Char} {p : Nat} (h : Service.portOfText? cs = some p) :
    0 < p ∧ p < 65536 := by
  obtain ⟨hread, hne⟩ := Option.filter_eq_some_iff.1 h
  exact ⟨Nat.pos_of_ne_zero (by simpa using hne), Text.readBelow?_lt hread⟩

theorem scalarPort?_range {v : Value} {p : Nat} (h : scalarPort? v = some p) :
    0 < p ∧ p < 65536 := by
  cases v with
  | number n =>
    cases n with
    | int i =>
      have hi : (0 < i ∧ i < 65536) ∧ i.toNat = p := by simpa [scalarPort?] using h
      omega
    | float x => exact nomatch h
  | string s => exact portOfText?_range h
  | _ => exact nomatch h

/-- **A container port is a number from 1 to 65535.** -/
theorem entryPort?_range {v : Value} {p : Nat} (h : entryPort? v = some p) :
    0 < p ∧ p < 65536 := by
  unfold entryPort? at h
  split at h
  · obtain ⟨target, -, htarget⟩ := Option.bind_eq_some_iff.1 h
    exact scalarPort?_range htarget
  · exact scalarPort?_range h

/-- **A setting keeps a service tidy.** -/
theorem Draft.tidy_apply {draft : Draft} (h : draft.1.Tidy) {setting : Setting}
    (hs : setting.Tidy) : (draft.apply setting).1.Tidy := by
  cases setting with
  | image => exact h
  | ports entries =>
    refine { h with ports := fun p hp => ?_ }
    obtain ⟨v, -, hv⟩ := List.mem_filterMap.1 hp
    exact entryPort?_range hv
  | environment e ws => exact { h with environment := hs }
  | volumes entries => exact { h with }
  | subdomain text => exact { h with }
  | registry r =>
    refine { h with registry := ?_ }
    rintro _ ⟨⟩
    exact hs
  | extra key v =>
    have hextra : key.Avoids settingKeys := hs
    exact { h with
      extra := Entries.forall_key_insert h.extra hextra
      extra_apart := Entries.apart_insert h.extra_apart }

/-- Tidy settings make a tidy service. -/
theorem tidy_applied {name image : String} {ss : List Setting} (hss : ∀ s ∈ ss, s.Tidy) :
    (applied name image ss).1.Tidy := by
  have hfold : ∀ draft : Draft, draft.1.Tidy → (ss.foldl Draft.apply draft).1.Tidy := by
    induction ss with
    | nil => exact fun _ h => h
    | cons s ss ih =>
      rw [List.forall_mem_cons] at hss
      exact fun draft h => ih hss.2 _ (Draft.tidy_apply h hss.1)
  exact hfold _ ⟨nofun, nofun, nofun, rfl, nofun, .nil⟩

/-- **Whatever body is read as a service, the service is in the normal form.** -/
theorem normal_of_service {name : String} {body : Value} {draft : Draft}
    (h : service name body = .ok draft) : draft.1.Normal := by
  obtain ⟨es, img, ss, -, -, hss, rfl⟩ := service_eq_ok_iff.1 h
  have htidy : (applied name img ss).1.Tidy := by
    refine tidy_applied fun s hs => ?_
    obtain ⟨e, -, he⟩ := Outcome.exists_of_forall₂_of_mem hss hs
    exact tidy_setting he
  refine { htidy with fragment := fun hnone => ?_ }
  exact (Option.or_eq_none_iff.1 hnone).2

/-! ## Manifests -/

/-- A key without a text gives no name. -/
theorem not_blank_of_names {key : Value} {name : String} (h : Names key name) :
    ¬ Text.isBlankText name = true := by
  cases h with
  | text h => exact h
  | number h => exact h

/-- Services are put behind one another under their names. -/
theorem names_withDrafts (d : Document) (drafts : List Draft) :
    (withDrafts d drafts).names = d.names ++ drafts.map fun draft => draft.1.name := by
  rw [Document.names, withDrafts, List.map_append, List.map_map]
  rfl

theorem normal_withDrafts {es : List (Value × Value)} {drafts : List Draft}
    (hreads : List.Forall₂ Reads es drafts)
    (hnodup : (drafts.map fun draft => draft.1.name).Nodup) : (withDrafts {} drafts).Normal where
  keys := by
    intro e he
    obtain ⟨draft, -, rfl⟩ := List.mem_map.1 he
    rfl
  names_nodup := by
    rw [names_withDrafts]
    exact hnodup
  names_not_blank := by
    rw [names_withDrafts]
    intro name hname
    obtain ⟨draft, hdraft, rfl⟩ := List.mem_map.1 hname
    obtain ⟨e, -, hread⟩ := Outcome.exists_of_forall₂_of_mem hreads hdraft
    exact not_blank_of_names hread.1
  services := by
    intro e he
    obtain ⟨draft, hdraft, rfl⟩ := List.mem_map.1 he
    obtain ⟨e, -, hread⟩ := Outcome.exists_of_forall₂_of_mem hreads hdraft
    exact normal_of_service hread.2
  extensions := nofun
  extensions_apart := .nil

/-- **An entry beside the services keeps a document normal.** -/
theorem normal_withEntry {d : Document} (h : d.Normal) (e : Value × Value) :
    (withEntry d e).Normal := by
  by_cases hservices : e.1.asString? = some "services"
  · rwa [withEntry_services hservices]
  by_cases hvolumes : e.1.asString? = some "volumes"
  · rw [withEntry_volumes hvolumes, declaring_eq]
    exact { h with }
  · have hkey : e.1.Avoids rootKeys := by
      simp only [Value.Avoids, rootKeys, List.forall_mem_cons]
      exact ⟨hservices, hvolumes, nofun⟩
    rw [withEntry_extension hservices hvolumes]
    exact { h with
      extensions := Entries.forall_key_insert h.extensions hkey
      extensions_apart := Entries.apart_insert h.extensions_apart }

/-- No entry breaks the normal form, so all of them keep it. -/
theorem normal_foldl_withEntry {d : Document} (h : d.Normal) (es : List (Value × Value)) :
    (es.foldl withEntry d).Normal := by
  induction es generalizing d with
  | nil => exact h
  | cons e es ih => exact ih (normal_withEntry h e)

end Manifest

/-- **Whatever value is read as a document, the document is in the normal form.** -/
theorem Document.normal_of_ofValue {v : Value} {d : Document} (h : ofValue v = .ok d) :
    d.Normal := by
  obtain ⟨root, services, drafts, -, -, hreads, hnodup, -, rfl⟩ := ofValue_eq_ok_iff.1 h
  exact Manifest.normal_foldl_withEntry (Manifest.normal_withDrafts hreads hnodup) root

end Deployment
