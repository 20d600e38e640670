import Deployment.Compilation
import Deployment.Proofs.Assembly.Soundness
import Deployment.Proofs.Wizard

/-!
# Proofs/Wizard/Deployable — every choice of an archetype can be deployed

The services of an archetype have names that are fragments (`Wizard.IsGenerated`), so they can be
routed under every domain that leaves room for them.  The volumes that they name are declared, those
of the application as they are found in it and that of a database as a constant
(`Wizard.mem_volumes_of_named`).  What can go wrong is the choice itself: there is no such archetype,
or it has another database for good (`Descriptor.ofArchetype_of_ready`).
-/

namespace Deployment

/-! ## Archetypes

The catalog is searched by names in lower case. No two archetypes share a name, so it does not
matter which one is found first. -/

namespace Archetype

/-- The names of an archetype, the older ones included. -/
def names (a : Archetype) : List String := a.id :: a.aliases

/-- **Whether a text names an archetype**, without regard to case and blanks around it. -/
def IsNamed (a : Archetype) (text : String) : Prop := Text.asciiLower (Text.trim text) ∈ a.names

instance (a : Archetype) (text : String) : Decidable (a.IsNamed text) :=
  inferInstanceAs (Decidable (_ ∈ _))

/-- **Whether an archetype refuses a choice of a database**: it always has another one. -/
def Refuses (a : Archetype) (asked : Option DatabaseEngine) : Prop :=
  ∃ engine other, a.database = .fixed engine ∧ asked = some other ∧ other ≠ engine

/-- The database of an archetype for a choice that it does not refuse. -/
def engine? (a : Archetype) (asked : Option DatabaseEngine) : Option DatabaseEngine :=
  match a.database with
  | .optional => asked
  | .bundled engine => some (asked.getD engine)
  | .fixed engine => some engine

/-- No two archetypes have a name in common. -/
theorem eq_of_mem_names :
    ∀ a ∈ catalog, ∀ b ∈ catalog, ∀ name ∈ a.names, name ∈ b.names → a = b := by
  decide

/-- Looking at the names of an archetype is comparing its name, then its older ones. -/
theorem hasName_iff {a : Archetype} {name : String} :
    (a.id == name || a.aliases.contains name) = true ↔ name ∈ a.names := by
  rw [names, List.mem_cons, Bool.or_eq_true, beq_iff_eq, List.contains_iff_mem, eq_comm]

/-- **The archetype that is found is the one that the text names.** -/
theorem find?_eq_some_iff {text : String} {a : Archetype} :
    find? text = some a ↔ a ∈ catalog ∧ a.IsNamed text := by
  rw [find?, IsNamed]
  generalize Text.asciiLower (Text.trim text) = name
  have hnamed {b : Archetype}
      (hb : (catalog.find? fun a => a.id == name || a.aliases.contains name) = some b) :
      b ∈ catalog ∧ name ∈ b.names := by
    have hhas := List.find?_some hb
    exact ⟨List.mem_of_find?_eq_some hb, hasName_iff.1 hhas⟩
  refine ⟨hnamed, fun ⟨ha, hname⟩ => ?_⟩
  cases hfind : catalog.find? fun a => a.id == name || a.aliases.contains name with
  | none => exact absurd (hasName_iff.2 hname) (List.find?_eq_none.1 hfind a ha)
  | some b =>
    obtain ⟨hb, hbname⟩ := hnamed hfind
    rw [eq_of_mem_names b hb a ha name hbname hname]

theorem find?_eq_none_iff {text : String} :
    find? text = none ↔ ∀ a ∈ catalog, ¬ a.IsNamed text := by
  rw [Option.eq_none_iff_forall_ne_some]
  simp only [ne_eq, find?_eq_some_iff, not_and]

/-- An engine is selected unless it is refused. -/
theorem select_of_not_refuses {a : Archetype} {asked : Option DatabaseEngine}
    (h : ¬ a.Refuses asked) : a.select asked = .ok (a.engine? asked) := by
  unfold select engine?
  cases hdatabase : a.database with
  | optional => rfl
  | bundled engine => rfl
  | fixed engine =>
    cases asked with
    | none => rfl
    | some other =>
      have hother : other = engine := by
        by_contra hne
        exact h ⟨engine, other, hdatabase, rfl, hne⟩
      exact if_pos hother

theorem select_of_refuses {a : Archetype} {asked : Option DatabaseEngine} (h : a.Refuses asked) :
    ∃ other, asked = some other ∧
      a.select asked = .error (.unsupportedDatabase a.id other.name) := by
  obtain ⟨engine, other, hdatabase, rfl, hne⟩ := h
  refine ⟨other, rfl, ?_⟩
  unfold select
  rw [hdatabase]
  exact if_neg hne

end Archetype

namespace Wizard

/-! ## Routes

The names of generated services are short labels. So they fit before any root with room for them,
and different names make different hosts. -/

/-- The names that services of archetypes have. -/
def nameList : List String := ["web", "app", databaseService, cacheService]

/-- The images that services of archetypes have. -/
def imageList : List String :=
  ["wordpress:latest", "node:18-alpine", "python:3.12-slim", "ruby:3.3-slim", "mysql:8.0",
    "postgres:15", cacheImage]

/-- The name of the host of a service of an archetype. -/
def hostOf (root : Hostname) (name : String) : Hostname :=
  if name = "app" then root else ⟨Hostname.under name root.text⟩

/-- Different names lead to different hosts. -/
theorem hostOf_injective (root : Hostname) : Function.Injective (hostOf root) := by
  intro a b h
  unfold hostOf at h
  split at h <;> split at h
  · rename_i ha hb
    rw [ha, hb]
  · exact absurd (congrArg Hostname.text h).symm (Hostname.under_ne _ _)
  · exact absurd (congrArg Hostname.text h) (Hostname.under_ne _ _)
  · exact Hostname.under_inj (congrArg Hostname.text h)

/-- The names of services are fragments as they are. -/
theorem ofString_lower : ∀ name ∈ nameList, Fragment.ofString (Text.lower name) = .ok ⟨name⟩ := by
  simp only [nameList, List.forall_mem_cons]
  exact ⟨rfl, rfl, rfl, rfl, nofun⟩

/-- Whether a name is that of the service on the root domain. -/
theorem isRoot_iff : ∀ name ∈ nameList, Fragment.isRoot ⟨name⟩ = true ↔ name = "app" := by
  decide

theorem utf8ByteSize_le : ∀ name ∈ nameList, name.utf8ByteSize ≤ 5 := by
  decide

theorem not_blank_of_mem_imageList : ∀ image ∈ imageList, ¬ Text.isBlankText image = true := by
  decide

/-- **What a service of an archetype has**: one of the names and one of the images, and neither a
fragment nor credentials of its own. -/
structure IsGenerated (s : Service) : Prop where
  name : s.name ∈ nameList
  image : s.image ∈ imageList
  subdomain : s.subdomain = none
  registry : s.registry = none

namespace IsGenerated

variable {s : Service} {root : Hostname}

/-- A generated service is routed under its name. -/
theorem fragment (h : IsGenerated s) :
    Fragment.Grammar (Route.fragmentText s) ∧ Route.fragmentText s = s.name := by
  have hasked : Route.asked s = Text.lower s.name := by rw [Route.asked, h.subdomain]; rfl
  obtain ⟨hgrammar, heq⟩ :=
    Route.ofString_asked_eq_ok_iff.1 (hasked ▸ ofString_lower s.name h.name)
  exact ⟨hgrammar, (congrArg Fragment.text heq).symm⟩

/-- Its host is its name before the root. -/
theorem hostOf_eq (h : IsGenerated s) : Route.hostOf root s = hostOf root s.name := by
  have hroot : Route.asksRoot s = true ↔ s.name = "app" := by
    rw [Route.asksRoot, h.fragment.2]
    exact isRoot_iff s.name h.name
  rw [Route.hostOf, hostOf, h.fragment.2]
  exact if_congr hroot rfl rfl

/-- **A service of an archetype can be routed** under every domain that leaves room for it. -/
theorem named (h : IsGenerated s) (hroot : Hostname.Grammar root.text)
    (hroom : root.text.utf8ByteSize ≤ 247) : Route.Named root s where
  fragment := h.fragment.1
  name := by
    have hlabel : Hostname.IsLabel s.name.toList := h.fragment.2 ▸ h.fragment.1.label
    have hshort := utf8ByteSize_le s.name h.name
    rw [h.hostOf_eq, hostOf]
    split
    · exact hroot
    · exact hroot.under hlabel (by omega)

end IsGenerated

/-! ## The services of an archetype -/

theorem isGenerated_applicationService (a : Archetype) (settings : List (String × String)) :
    IsGenerated (applicationService a settings) where
  name := by
    rw [name_applicationService]
    rcases service_eq a with h | h <;> rw [h] <;> decide
  image := by
    rw [applicationService]
    cases a.application <;> simp [imageList]
  subdomain := by
    rw [applicationService]
    cases a.application <;> rfl
  registry := by
    rw [applicationService]
    cases a.application <;> rfl

theorem isGenerated_linkedService (l : Link) (rootPassword : String) :
    IsGenerated (linkedService l rootPassword) where
  name := show databaseService ∈ nameList by decide
  image := by
    rw [linkedService]
    cases l.engine <;> simp [imageList, DatabaseEngine.image]
  subdomain := rfl
  registry := rfl

theorem isGenerated_cachingService : IsGenerated cachingService where
  name := show cacheService ∈ nameList by decide
  image := show cacheImage ∈ imageList by decide
  subdomain := rfl
  registry := rfl

/-- All services of an archetype are generated. -/
theorem isGenerated_of_mem_servicesOf {a : Archetype} {appName : Option String}
    {engine : Option DatabaseEngine} {cache : Bool} {secrets : Nat → String} :
    ∀ s ∈ servicesOf (application a appName engine cache secrets)
      (database? a appName engine secrets) cache, IsGenerated s :=
  forall_mem_servicesOf (fun _ _ => isGenerated_applicationService a _) isGenerated_linkedService
    isGenerated_cachingService

/-! ## Their volumes

Volumes are declared where services are added and not where they are mounted.  The application
declares what it mounts; the database mounts the one volume that is declared behind it, whatever its
engine is; the cache mounts nothing. -/

/-- A volume that a service mounts by name is among its named ones. -/
theorem mem_namedVolumes {s : Service} {entry name : String} (hentry : entry ∈ s.volumes)
    (hname : VolumeSource.ofEntry entry = .named name) : name ∈ namedVolumes s :=
  List.mem_filterMap.2 ⟨entry, hentry, by rw [hname]⟩

/-- **A database mounts the volume that is declared for it**, and no other one by name. -/
theorem namedVolumes_linkedService (l : Link) (rootPassword : String) :
    namedVolumes (linkedService l rootPassword) = [dataVolume] := by
  have hmount (engine : DatabaseEngine) :
      VolumeSource.ofEntry (dataVolume ++ ":" ++ engine.dataPath) = .named dataVolume := by
    cases engine <;> rfl
  rw [namedVolumes, linkedService, List.filterMap_cons, hmount]
  rfl

theorem namedVolumes_cachingService : namedVolumes cachingService = [] := rfl

/-- **The volumes that services of an archetype name are declared** with the application or behind
the database. -/
theorem mem_volumes_of_named {a : Archetype} {appName : Option String}
    {engine : Option DatabaseEngine} {cache : Bool} {secrets : Nat → String} {s : Service}
    (hs : s ∈ servicesOf (application a appName engine cache secrets)
      (database? a appName engine secrets) cache) {name : String} (hname : name ∈ namedVolumes s) :
    name ∈ (document a appName engine cache secrets).volumes := by
  rw [document, listed, volumesOf, NameSet.mem_ofList, List.mem_append]
  simp only [servicesOf, List.mem_append, List.mem_singleton] at hs
  rcases hs with (rfl | hs) | hs
  · exact Or.inl hname
  · obtain ⟨l, hl, rfl⟩ := Option.map_eq_some_iff.1 (Option.mem_toList.1 hs)
    rw [namedVolumes_linkedService] at hname
    rw [database?, hl]
    exact Or.inr hname
  · cases cache with
    | false => exact absurd hs List.not_mem_nil
    | true =>
      rw [List.mem_singleton.1 hs, namedVolumes_cachingService] at hname
      exact absurd hname List.not_mem_nil

end Wizard

/-- **A target that an archetype can be deployed to**: it keeps the rules, and its domain leaves
room for a fragment in front. -/
structure Target.Ready (t : Target) : Prop where
  domain : Hostname.Grammar t.root.text
  room : (Text.trim t.domain).utf8ByteSize ≤ 247
  aliases : ∀ text ∈ t.aliases, Hostname.Grammar (Hostname.canonicalText text)
  domain_not_alias : t.root ∉ Validation.aliasNames t.aliases
  aliases_nodup : (Validation.aliasNames t.aliases).Nodup
  customer : ¬ Text.isBlankText t.customer = true
  registry : ∀ r, t.registry = some r → r.missing? = none

namespace Wizard

/-- **Services of an archetype can be deployed** where their names differ and the volumes that they
name are declared. -/
theorem deployable_listed {services : List Service} {volumes : NameSet} {t : Target} (ht : t.Ready)
    (hservices : ∀ s ∈ services, IsGenerated s) (hne : services ≠ [])
    (hnodup : (services.map Service.name).Nodup)
    (hvolumes : ∀ s ∈ services, ∀ name ∈ namedVolumes s, name ∈ volumes) :
    (listed services volumes).Deployable t := by
  have hroom : t.root.text.utf8ByteSize ≤ 247 := by
    rw [Target.root, Hostname.utf8ByteSize_canonicalText]
    exact ht.room
  have hmem {e : String × Service} (he : e ∈ (listed services volumes).services) :
      e.2 ∈ services := by
    obtain ⟨s, hs, rfl⟩ := List.mem_map.1 he
    exact hs
  have hhosts : ((listed services volumes).services.map fun e => Route.hostOf t.root e.2) =
      (services.map Service.name).map (hostOf t.root) := by
    rw [listed, List.map_map, List.map_map]
    exact List.map_congr_left fun s hs => (hservices s hs).hostOf_eq
  exact
    { domain := ht.domain
      aliases := ht.aliases
      domain_not_alias := ht.domain_not_alias
      aliases_nodup := ht.aliases_nodup
      customer := ht.customer
      registry := ht.registry
      credentials := by
        intro e he r hr
        rw [(hservices e.2 (hmem he)).registry] at hr
        exact absurd hr.symm (Option.some_ne_none r)
      nonempty := by simpa [listed] using hne
      complete := fun e he =>
        { image := not_blank_of_mem_imageList _ (hservices e.2 (hmem he)).image
          volumes := fun entry hentry name hname =>
            hvolumes e.2 (hmem he) name (mem_namedVolumes hentry hname) }
      routable :=
        { named := fun e he => (hservices e.2 (hmem he)).named ht.domain hroom
          apart := by
            rw [hhosts]
            exact hnodup.map (hostOf_injective t.root) } }

/-- **The document of an archetype can be deployed.** -/
theorem deployable_document {t : Target} (ht : t.Ready) (a : Archetype) (appName : Option String)
    (engine : Option DatabaseEngine) (cache : Bool) (secrets : Nat → String) :
    (document a appName engine cache secrets).Deployable t := by
  refine deployable_listed ht isGenerated_of_mem_servicesOf ?_ ?_
    fun s hs name hname => mem_volumes_of_named hs hname
  · simp [servicesOf]
  · rw [map_name_servicesOf]
    exact nodup_serviceNames a engine cache

/-- What is compiled follows from the archetype that is found and the database that it selects. -/
theorem compile_of_find? {id : String} {a : Archetype} (h : Archetype.find? id = some a)
    (o : Options) (secrets : Nat → String) :
    compile id o secrets = (fun engine =>
      document a o.appName engine (a.bundledCache || o.cache) secrets) <$>
        a.select o.database := by
  simp only [compile_eq, choose, h]
  cases a.select o.database <;> rfl

/-- What is not in the catalog cannot be compiled. -/
theorem compile_of_find?_eq_none {id : String} (h : Archetype.find? id = none) (o : Options)
    (secrets : Nat → String) : compile id o secrets = .error (.unknownArchetype id) := by
  rw [compile_eq, choose, h]
  rfl

end Wizard

/-! ## Descriptors -/

namespace Descriptor

/-- **What is deployed of an archetype**: the application, a database if there is one and a cache if
there is one, with their volumes, and the size that was chosen is recorded. -/
structure IsChosen (D : Descriptor) (a : Archetype) (o : Wizard.Options) (m : RequestMeta) :
    Prop where
  services : D.services.map Service.name =
    Wizard.serviceNames a (a.engine? o.database) (a.bundledCache || o.cache)
  volumes_declared : ∀ s ∈ D.services, ∀ entry ∈ s.volumes, ∀ name,
    VolumeSource.ofEntry entry = .named name → name ∈ D.volumes
  context : D.context = { m.context with tier := some o.tier }

theorem assembled_ok (d : Document) (m : RequestMeta) (settings : Settings) :
    CompileError.assembled (.ok d) m settings =
      CompileError.ofViolation (d.assemble m settings) := by
  rw [CompileError.assembled, Outcome.ok_bind]

/-- A document that keeps the rules becomes the descriptor of a request, whatever size is chosen. -/
theorem assembled_of_deployable {d : Document} {m : RequestMeta} (h : d.Deployable m.toTarget)
    (tier : ResourceTier) (settings : Settings) :
    CompileError.assembled (.ok d) (m.withTier tier) settings =
      .ok (ofPlaced d (m.withTier tier) settings) := by
  have hok : d.assemble (m.withTier tier) settings = .ok (ofPlaced d (m.withTier tier) settings) :=
    Document.assemble_eq_ok_iff.2 ⟨h, rfl⟩
  rw [assembled_ok, hok]
  rfl

/-- **Every choice of an archetype can be deployed.**  Where no archetype has the name, or it has
another database for good, this is reported; in every other case there is a descriptor. -/
theorem ofArchetype_of_ready {m : RequestMeta} (hm : m.toTarget.Ready) (id : String)
    (o : Wizard.Options) (secrets : Nat → String) (settings : Settings) :
    ((∀ a ∈ Archetype.catalog, ¬ a.IsNamed id) →
      ofArchetype id o secrets m settings = .error (.violation (.unknownArchetype id))) ∧
    ∀ a ∈ Archetype.catalog, a.IsNamed id →
      (a.Refuses o.database → ∃ other, o.database = some other ∧
        ofArchetype id o secrets m settings =
          .error (.violation (.unsupportedDatabase a.id other.name))) ∧
      (¬ a.Refuses o.database →
        ∃ D, ofArchetype id o secrets m settings = .ok D ∧ D.IsChosen a o m) := by
  refine ⟨fun hnone => ?_, fun a ha hname => ⟨fun hrefuses => ?_, fun hrefuses => ?_⟩⟩
  · rw [ofArchetype, Wizard.compile_of_find?_eq_none (Archetype.find?_eq_none_iff.2 hnone)]
    rfl
  · obtain ⟨other, hother, hselect⟩ := Archetype.select_of_refuses hrefuses
    refine ⟨other, hother, ?_⟩
    rw [ofArchetype, Wizard.compile_of_find? (Archetype.find?_eq_some_iff.2 ⟨ha, hname⟩), hselect]
    rfl
  · have hrules := Wizard.deployable_document hm a o.appName (a.engine? o.database)
      (a.bundledCache || o.cache) secrets
    have hcompile : Wizard.compile id o secrets = .ok (Wizard.document a o.appName
        (a.engine? o.database) (a.bundledCache || o.cache) secrets) := by
      rw [Wizard.compile_of_find? (Archetype.find?_eq_some_iff.2 ⟨ha, hname⟩),
        Archetype.select_of_not_refuses hrefuses]
      rfl
    have hnames : ((Wizard.document a o.appName (a.engine? o.database)
        (a.bundledCache || o.cache) secrets).services.map fun e => e.2.name) =
          Wizard.serviceNames a (a.engine? o.database) (a.bundledCache || o.cache) := by
      rw [Wizard.document, Wizard.listed, List.map_map]
      exact Wizard.map_name_servicesOf
    -- from here on only its rules and its names are needed of the document
    generalize Wizard.document a o.appName (a.engine? o.database) (a.bundledCache || o.cache)
      secrets = d at hrules hcompile hnames
    have htier : d.Deployable (m.withTier o.tier).toTarget := hrules
    refine ⟨ofPlaced d (m.withTier o.tier) settings, ?_, ?_, htier.sound.volumes_declared, rfl⟩
    · rw [ofArchetype, hcompile]
      exact assembled_of_deployable hrules o.tier settings
    · rw [services_ofPlaced, List.map_map]
      exact hnames

end Descriptor

/-- A request with a domain of many labels. -/
def RequestMeta.shop : RequestMeta where
  domain := " Shop.Example.co.uk "
  aliases := ["www.example.com"]
  customer := "c-1"
  context := default

/-- Two of the requests are refused and two become descriptors.  Without its volume declared, the
database of the last would be refused as well. -/
theorem Descriptor.ofArchetype_shop :
    RequestMeta.shop.toTarget.Ready ∧
      ofArchetype "joomla" {} Text.natText .shop {} =
        .error (.violation (.unknownArchetype "joomla")) ∧
      ofArchetype "WordPress" { database := some .postgres } Text.natText .shop {} =
        .error (.violation (.unsupportedDatabase "blog+database" "postgres")) ∧
      (∃ D, ofArchetype " Rails " { database := some .mysql } Text.natText .shop {} = .ok D ∧
        D.IsChosen .rails { database := some .mysql } .shop) ∧
      (∃ D, ofArchetype "WordPress" {} Text.natText .shop {} = .ok D ∧ D.IsChosen .blog {} .shop ∧
        D.volumes.names = ["db_data", "web_data"]) ∧
      ∃ d, Wizard.compile "WordPress" {} Text.natText = .ok d ∧
        ({ d with volumes := .ofList ["web_data"] } : Document).assemble .shop {} =
          .error (.undeclaredVolume "db" "db_data") := by
  have hready : RequestMeta.shop.toTarget.Ready :=
    { domain := by decide +kernel
      room := by decide +kernel
      aliases := by decide +kernel
      domain_not_alias := by decide +kernel
      aliases_nodup := by decide +kernel
      customer := by decide +kernel
      registry := nofun }
  have hunknown : ∀ a ∈ Archetype.catalog, ¬ a.IsNamed "joomla" := by decide +kernel
  have hblog : Archetype.blog.IsNamed "WordPress" := by decide +kernel
  have hrails : Archetype.rails.IsNamed " Rails " := by decide +kernel
  obtain ⟨hjoomla, hknown⟩ := ofArchetype_of_ready hready "joomla" {} Text.natText {}
  refine ⟨hready, hjoomla hunknown, ?_, ?_, ?_, ?_⟩
  · obtain ⟨other, hother, hresult⟩ :=
      ((ofArchetype_of_ready hready "WordPress" { database := some .postgres } Text.natText {}).2
        .blog (by decide) hblog).1 ⟨.mysql, .postgres, rfl, rfl, nofun⟩
    cases hother
    exact hresult
  · refine ((ofArchetype_of_ready hready _ _ _ _).2 .rails (by decide) hrails).2 ?_
    rintro ⟨engine, other, hfixed, -⟩
    exact nomatch hfixed
  · obtain ⟨D, hD, hchosen⟩ :=
      ((ofArchetype_of_ready hready "WordPress" {} Text.natText {}).2 .blog (by decide) hblog).2
        fun ⟨_, _, _, hnone, _⟩ => absurd hnone nofun
    have hvolumes : (ofArchetype "WordPress" {} Text.natText .shop {}).map
        (fun D => D.volumes.names) = .ok ["db_data", "web_data"] := rfl
    rw [hD] at hvolumes
    exact ⟨D, hD, hchosen, Except.ok.inj hvolumes⟩
  · exact ⟨_, rfl, rfl⟩

end Deployment
