import Deployment.Proofs.Manifest.Normal
import Deployment.Wizard

/-!
# Proofs/Wizard — the documents that archetypes become

An archetype becomes a document of the same form as a manifest (`Document.normal_of_compile`): its
services have different names and no other keys than a directory and a command.
-/

namespace Deployment

namespace Wizard

/-- Whether entries have no other keys than a directory and a command. -/
def IsPlain (extra : List (Value × Value)) : Prop :=
  ∀ e ∈ extra, e.1 = .string "working_dir" ∨ e.1 = .string "command"

theorem IsPlain.avoids {extra : List (Value × Value)} (h : IsPlain extra) :
    ∀ e ∈ extra, e.1.Avoids Manifest.settingKeys := by
  intro e he name hname heq
  rcases h e he with hkey | hkey
  · rw [hkey, Value.asString?, Option.some.injEq] at heq
    exact absurd hname (heq ▸ by decide)
  · rw [hkey, Value.asString?, Option.some.injEq] at heq
    exact absurd hname (heq ▸ by decide)

theorem IsPlain.label?_eq_none {s : Service} (h : IsPlain s.extra) (key : String) :
    s.label? key = none := by
  have hlookup : Value.lookup "labels" s.extra = none := by
    rw [Value.lookup, Entries.find?_eq_none_iff, Entries.has_eq_false_iff]
    intro e he
    rcases h e he with hkey | hkey
    · rw [hkey, Value.same]
      decide
    · rw [hkey, Value.same]
      decide
  rw [Service.label?, hlookup]
  rfl

/-- A service of an archetype is normal where its ports and variables are. -/
theorem normal_of_isPlain {s : Service} (hextra : IsPlain s.extra)
    (hapart : Entries.Apart Value.same s.extra) (hports : ∀ p ∈ s.ports, 0 < p ∧ p < 65536)
    (henvironment : ∀ key ∈ s.environment.keys, key ≠ "") (hregistry : s.registry = none)
    (hhostname : s.hostname = none) : s.Normal where
  ports := hports
  environment := henvironment
  registry := by
    rw [hregistry]
    exact nofun
  hostname := hhostname
  extra := hextra.avoids
  extra_apart := hapart
  fragment := fun _ => hextra.label?_eq_none _

theorem keys_ofList {settings : List (String × String)} (h : ∀ e ∈ settings, e.1 ≠ "") :
    ∀ key ∈ (TextMap.ofList settings).keys, key ≠ "" := by
  intro key hkey
  obtain ⟨e, he, rfl⟩ := List.mem_map.1 (TextMap.mem_keys_ofList hkey)
  exact h e he

/-- All variables of an application are those it is set up with. -/
theorem environment_applicationService (a : Archetype) (settings : List (String × String)) :
    (applicationService a settings).environment = .ofList settings := by
  rw [applicationService]
  cases a.application <;> rfl

/-- **An application is a normal service**, whatever kind it is. -/
theorem normal_applicationService (a : Archetype) {settings : List (String × String)}
    (h : ∀ e ∈ settings, e.1 ≠ "") : (applicationService a settings).Normal := by
  have hextra : IsPlain (applicationService a settings).extra := by
    rw [applicationService]
    cases a.application <;> simp [IsPlain, workingDirectory]
  have hapart : Entries.Apart Value.same (applicationService a settings).extra := by
    rw [applicationService]
    cases a.application <;> simp [Entries.Apart, workingDirectory, Value.same]
  have hports : ∀ p ∈ (applicationService a settings).ports, 0 < p ∧ p < 65536 := by
    rw [applicationService]
    cases a.application <;> simp
  have hvariables : ∀ key ∈ (applicationService a settings).environment.keys, key ≠ "" := by
    rw [environment_applicationService]
    exact keys_ofList h
  refine normal_of_isPlain hextra hapart hports hvariables ?_ ?_
  · rw [applicationService]
    cases a.application <;> rfl
  · rw [applicationService]
    cases a.application <;> rfl

theorem normal_linkedService (l : Link) (rootPassword : String) :
    (linkedService l rootPassword).Normal := by
  have hports : ∀ p ∈ [l.engine.port], 0 < p ∧ p < 65536 := by cases l.engine <;> decide
  have hvariables : ∀ e ∈ databaseVariables l rootPassword, e.1 ≠ "" := by
    rw [databaseVariables]
    cases l.engine <;> simp
  exact normal_of_isPlain nofun .nil hports (keys_ofList hvariables) rfl rfl

theorem normal_cachingService : cachingService.Normal :=
  normal_of_isPlain nofun .nil (by simp [cachingService, cachePort]) nofun rfl rfl

/-! ## The services of an archetype

The services are listed as values first, with their names. How they come into a document is said
below. -/

/-- The services of an application, its database and the cache, as far as there are any. -/
def servicesOf (app : Service) (db? : Option Service) (cache : Bool) : List Service :=
  [app] ++ db?.toList ++ if cache then [cachingService] else []

/-- The names of the services of an archetype. -/
def serviceNames (a : Archetype) (engine : Option DatabaseEngine) (cache : Bool) : List String :=
  [a.service] ++ (if engine.isSome then [databaseService] else []) ++
    if cache then [cacheService] else []

theorem service_eq (a : Archetype) : a.service = "web" ∨ a.service = "app" := by
  rw [Archetype.service]
  cases a.application <;> simp

/-- At most three names are used, in this order. -/
theorem serviceNames_sublist (a : Archetype) (engine : Option DatabaseEngine) (cache : Bool) :
    (serviceNames a engine cache).Sublist [a.service, databaseService, cacheService] := by
  cases engine <;> cases cache <;> simp [serviceNames]

/-- **The services have different names**, so adding them cannot fail. -/
theorem nodup_serviceNames (a : Archetype) (engine : Option DatabaseEngine) (cache : Bool) :
    (serviceNames a engine cache).Nodup := by
  refine (serviceNames_sublist a engine cache).nodup ?_
  rcases service_eq a with h | h <;> rw [h] <;> decide

theorem not_blank_of_mem_serviceNames {a : Archetype} {engine : Option DatabaseEngine}
    {cache : Bool} {name : String} (h : name ∈ serviceNames a engine cache) :
    ¬ Text.isBlankText name = true := by
  have hall : ∀ name ∈ [a.service, databaseService, cacheService],
      ¬ Text.isBlankText name = true := by
    rcases service_eq a with h | h <;> rw [h] <;> decide
  exact hall name ((serviceNames_sublist a engine cache).subset h)

/-- **No variable of an application is without a name.** -/
theorem ne_empty_of_mem_settings {a : Application} {key : String} {link? : Option Link}
    {cache : Bool} : ∀ e ∈ settings a key link? cache, e.1 ≠ "" := by
  have hown : ∀ e ∈ ownVariables a key, e.1 ≠ "" := by
    cases a <;> simp [ownVariables]
  have hlink : ∀ e ∈ (link?.map (linkVariables a)).getD [], e.1 ≠ "" := by
    cases link? with
    | none => exact nofun
    | some l => cases a <;> simp [linkVariables]
  have hcache : ∀ e ∈ if cache then cacheVariables else [], e.1 ≠ "" := by
    cases cache <;> simp [cacheVariables]
  simp only [settings, List.forall_mem_append]
  exact ⟨⟨hown, hlink⟩, hcache⟩

section

variable {a : Archetype} {appName : Option String} {engine : Option DatabaseEngine} {cache : Bool}
    {secrets : Nat → String}

theorem name_applicationService (a : Archetype) (settings : List (String × String)) :
    (applicationService a settings).name = a.service := by
  rw [applicationService]
  cases a.application <;> rfl

/-- The names of the services depend on the choice only. -/
theorem map_name_servicesOf :
    (servicesOf (application a appName engine cache secrets) (database? a appName engine secrets)
      cache).map Service.name = serviceNames a engine cache := by
  cases engine <;> cases cache <;>
    simp [servicesOf, serviceNames, application, database?, link?, name_applicationService,
      linkedService, cachingService]

/-- **What holds of the services that an archetype may have holds of those that it has.** -/
theorem forall_mem_servicesOf {p : Service → Prop}
    (happlication : ∀ (key : String) (link? : Option Link),
      p (applicationService a (settings a.application key link? cache)))
    (hlinked : ∀ l rootPassword, p (linkedService l rootPassword)) (hcaching : p cachingService) :
    ∀ s ∈ servicesOf (application a appName engine cache secrets)
      (database? a appName engine secrets) cache, p s := by
  intro s h
  simp only [servicesOf, List.mem_append, List.mem_singleton] at h
  rcases h with (rfl | h) | h
  · exact happlication _ _
  · obtain ⟨l, -, rfl⟩ := Option.map_eq_some_iff.1 (Option.mem_toList.1 h)
    exact hlinked l _
  · cases cache with
    | false => exact absurd h List.not_mem_nil
    | true =>
      rw [List.mem_singleton.1 h]
      exact hcaching

/-- All services of an archetype are normal. -/
theorem normal_of_mem_servicesOf :
    ∀ s ∈ servicesOf (application a appName engine cache secrets)
      (database? a appName engine secrets) cache, s.Normal :=
  forall_mem_servicesOf (fun _ _ => normal_applicationService a ne_empty_of_mem_settings)
    normal_linkedService normal_cachingService

end

/-! ## Services in a document

The document is built by adding, and every addition may fail.  As long as names differ none does,
and what is built is said at once (`documentOf_eq_ok`). -/

/-- Services under their names, with declared volumes. -/
def listed (services : List Service) (volumes : NameSet) : Document :=
  { services := services.map fun s => (s.name, s)
    volumes
    extensions := [(.string "version", .string manifestVersion)] }

/-- The volumes that are declared: those that the application names, and with a database that of its
data. -/
def volumesOf (app : Service) (db? : Option Service) : NameSet :=
  .ofList (namedVolumes app ++ if db?.isSome then [dataVolume] else [])

theorem names_listed (services : List Service) (volumes : NameSet) :
    (listed services volumes).names = services.map Service.name := by
  rw [Document.names, listed, List.map_map]
  rfl

/-- A service with a name of its own is listed behind the others. -/
theorem add_listed {services : List Service} {volumes : NameSet} {s : Service}
    (h : ((services ++ [s]).map Service.name).Nodup) :
    (listed services volumes).add s = .ok (listed (services ++ [s]) volumes) := by
  rw [List.map_append, List.nodup_append_comm] at h
  have hnew : s.name ∉ services.map Service.name := (List.nodup_cons.1 h).1
  rw [Document.add_eq, names_listed, if_neg hnew, listed, listed, List.map_append]
  rfl

/-- The document is started with the application alone. -/
theorem started_eq (app : Service) :
    started app = .ok (listed [app] (.ofList (namedVolumes app))) := by
  have hbare : (namedVolumes app).foldl Document.declare
      { extensions := [(.string "version", .string manifestVersion)] } =
        listed [] (.ofList (namedVolumes app)) := Manifest.declaring_eq _ _
  rw [started, hbare]
  exact add_listed (List.nodup_singleton _)

/-- A database is added behind the services that are there, and its volume is declared. -/
theorem withDatabase_listed {app : Service} {db? : Option Service}
    (h : (([app] ++ db?.toList).map Service.name).Nodup) :
    withDatabase (listed [app] (.ofList (namedVolumes app))) db? =
      .ok (listed ([app] ++ db?.toList) (volumesOf app db?)) := by
  cases db? with
  | none =>
    rw [volumesOf, Option.isSome_none, if_neg Bool.false_ne_true, List.append_nil]
    rfl
  | some db =>
    have hdeclared : volumesOf app (some db) =
        (NameSet.ofList (namedVolumes app)).insert dataVolume := List.foldl_append
    rw [withDatabase, add_listed h, hdeclared]
    rfl

/-- The cache is added last and declares nothing. -/
theorem withCache_listed {services : List Service} {volumes : NameSet} {cache : Bool}
    (h : ((services ++ if cache then [cachingService] else []).map Service.name).Nodup) :
    withCache (listed services volumes) cache =
      .ok (listed (services ++ if cache then [cachingService] else []) volumes) := by
  cases cache with
  | false => exact congrArg (fun ss => Except.ok (listed ss volumes)) (List.append_nil _).symm
  | true => exact add_listed h

/-- **Where names differ every service is added**, and what is declared are the volumes that the
application names and that of a database. -/
theorem documentOf_eq_ok {app : Service} {db? : Option Service} {cache : Bool}
    (h : ((servicesOf app db? cache).map Service.name).Nodup) :
    documentOf app db? cache = .ok (listed (servicesOf app db? cache) (volumesOf app db?)) := by
  have hdb : (([app] ++ db?.toList).map Service.name).Nodup := by
    rw [servicesOf, List.map_append] at h
    exact h.of_append_left
  rw [documentOf, started_eq, Outcome.ok_bind, withDatabase_listed hdb, Outcome.ok_bind]
  exact withCache_listed h

/-- A document of listed services is normal where the services are and their names differ. -/
theorem normal_listed {services : List Service} {volumes : NameSet}
    (hnormal : ∀ s ∈ services, s.Normal) (hnodup : (services.map Service.name).Nodup)
    (hblank : ∀ name ∈ services.map Service.name, ¬ Text.isBlankText name = true) :
    (listed services volumes).Normal := by
  have hversion : Value.Avoids Manifest.rootKeys (.string "version") := by
    simp [Value.Avoids, Manifest.rootKeys, Value.asString?]
  exact
    { keys := by
        intro e he
        obtain ⟨s, -, rfl⟩ := List.mem_map.1 he
        rfl
      names_nodup := by rwa [names_listed]
      names_not_blank := by rwa [names_listed]
      services := by
        intro e he
        obtain ⟨s, hs, rfl⟩ := List.mem_map.1 he
        exact hnormal s hs
      extensions := by
        intro e he
        rw [List.mem_singleton.1 he]
        exact hversion
      extensions_apart := List.pairwise_singleton _ _ }

/-! ## The document of an archetype -/

/-- The document of an archetype. -/
def document (a : Archetype) (appName : Option String) (engine : Option DatabaseEngine)
    (cache : Bool) (secrets : Nat → String) : Document :=
  listed (servicesOf (application a appName engine cache secrets)
    (database? a appName engine secrets) cache)
    (volumesOf (application a appName engine cache secrets) (database? a appName engine secrets))

/-- **No service of an archetype is refused**: their names differ. -/
theorem documentOf_eq (a : Archetype) (appName : Option String) (engine : Option DatabaseEngine)
    (cache : Bool) (secrets : Nat → String) :
    documentOf (application a appName engine cache secrets) (database? a appName engine secrets)
      cache = .ok (document a appName engine cache secrets) :=
  documentOf_eq_ok (map_name_servicesOf ▸ nodup_serviceNames a engine cache)

/-- **Nothing but the choice can fail.** -/
theorem compile_eq (id : String) (o : Options) (secrets : Nat → String) :
    compile id o secrets = (fun p => document p.1 o.appName p.2 (p.1.bundledCache || o.cache)
      secrets) <$> choose id o := by
  unfold compile
  cases choose id o with
  | error v => rfl
  | ok p => exact documentOf_eq p.1 o.appName p.2 _ secrets

end Wizard

/-- **Whatever archetype becomes a document, the document is in the normal form.** -/
theorem Document.normal_of_compile {id : String} {o : Wizard.Options} {secrets : Nat → String}
    {d : Document} (h : Wizard.compile id o secrets = .ok d) : d.Normal := by
  rw [Wizard.compile_eq, Outcome.map_eq_ok] at h
  obtain ⟨⟨a, engine⟩, -, rfl⟩ := h
  refine Wizard.normal_listed Wizard.normal_of_mem_servicesOf ?_ ?_
  · rw [Wizard.map_name_servicesOf]
    exact Wizard.nodup_serviceNames a engine _
  · rw [Wizard.map_name_servicesOf]
    exact fun name => Wizard.not_blank_of_mem_serviceNames

end Deployment
