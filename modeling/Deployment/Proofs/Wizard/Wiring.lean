import Deployment.Proofs.Wizard.Credentials
import Deployment.Proofs.Wizard.Deployable
import Deployment.Secret

/-!
# Proofs/Wizard/Wiring — the services of an archetype reach each other

The application of an archetype has the host, the name, the user and the password of its database
(`Wizard.reaches_linkedService`) and the address of its cache.  `Wizard.IsSetUp` is all that the
document promises, and `Wizard.setUp_wires` says that every set-up keeps it, for two streams at
once.
-/

namespace Deployment

namespace Wizard

/-! ## What is found under the names of services

Names are looked up in the order of the document. The services have different names, so each is
found under its own. -/

section

variable (a : Archetype) (appName : Option String) (engine : Option DatabaseEngine) (cache : Bool)
    (secrets : Nat → String)

/-- The application is found under its name. -/
theorem service?_application :
    (document a appName engine cache secrets).service? a.service =
      some (application a appName engine cache secrets) := by
  rw [Document.service?, document, listed, servicesOf]
  simp [Entries.find?, Entries.sameText, application, name_applicationService]

theorem service?_database :
    (document a appName engine cache secrets).service? databaseService =
      database? a appName engine secrets := by
  have happlication : a.service ≠ databaseService := by
    rcases service_eq a with h | h <;> rw [h] <;> decide
  have hcaching : cacheService ≠ databaseService := by decide
  rw [Document.service?, document, listed, servicesOf, database?]
  cases link? a appName engine secrets <;> cases cache <;>
    simp [Entries.find?, Entries.sameText, application, name_applicationService, happlication,
      linkedService, cachingService, hcaching]

theorem service?_cache :
    (document a appName engine cache secrets).service? cacheService =
      if cache then some cachingService else none := by
  have happlication : a.service ≠ cacheService := by
    rcases service_eq a with h | h <;> rw [h] <;> decide
  have hlinked : databaseService ≠ cacheService := by decide
  rw [Document.service?, document, listed, servicesOf, database?]
  cases link? a appName engine secrets <;> cases cache <;>
    simp [Entries.find?, Entries.sameText, application, name_applicationService, happlication,
      linkedService, cachingService, hlinked]

end

/-! ## What an application knows of its database

No variable is bound twice, so looking one up is finding it in the list it was bound from. -/

/-- The keys by which an application reaches its database. -/
structure LinkKeys where
  host : String
  port? : Option String
  name : String
  user : String
  password : String

/-- The keys of an application. -/
def linkKeys : Application → LinkKeys
  | .blog => ⟨"WORDPRESS_DB_HOST", none, "WORDPRESS_DB_NAME", "WORDPRESS_DB_USER",
      "WORDPRESS_DB_PASSWORD"⟩
  | _ => ⟨"DATABASE_HOST", some "DATABASE_PORT", "DATABASE_NAME", "DATABASE_USER",
      "DATABASE_PASSWORD"⟩

/-- All of these keys. -/
def LinkKeys.all (k : LinkKeys) : List String :=
  [k.host, k.name, k.user, k.password] ++ k.port?.toList

/-- The keys by which a database is set up. -/
structure DatabaseKeys where
  name : String
  user : String
  password : String

/-- The keys of an engine. -/
def databaseKeys : DatabaseEngine → DatabaseKeys
  | .mysql => ⟨"MYSQL_DATABASE", "MYSQL_USER", "MYSQL_PASSWORD"⟩
  | .postgres => ⟨"POSTGRES_DB", "POSTGRES_USER", "POSTGRES_PASSWORD"⟩

/-- Whether two services have the same value under a key of each. -/
def Shares (s : Service) (key : String) (t : Service) (key' : String) : Prop :=
  ∃ text, s.environment.get? key = some text ∧ t.environment.get? key' = some text

/-- **Whether an application reaches a database of a document**: it names the service, its port, and
the name, the user and the password that the database was set up with. -/
structure Reaches (d : Document) (a : Application) (app db : Service) (engine : DatabaseEngine) :
    Prop where
  image : db.image = engine.image
  host : ∃ host, app.environment.get? (linkKeys a).host = some host ∧ d.service? host = some db
  port : ∃ port, db.ports = [port] ∧ ∀ key, (linkKeys a).port? = some key →
    app.environment.get? key = some (Text.natText port)
  name : Shares app (linkKeys a).name db (databaseKeys engine).name
  user : Shares app (linkKeys a).user db (databaseKeys engine).user
  password : Shares app (linkKeys a).password db (databaseKeys engine).password

/-- **What the document of an archetype promises** about its application and the credentials drawn
for it. -/
structure IsSetUp (d : Document) (a : Archetype) (app : Service) (drawn : List String) : Prop where
  application : d.service? a.service = some app
  credentials : ∀ text, text ∈ d.credentials ↔ text ∈ drawn
  /-- Where no two credentials drawn are equal, no two keys that they are drawn for have equal
  values. -/
  apart : drawn.Nodup → (d.valuesUnder drawnKeys.contains).Nodup
  linked : ∀ db, d.service? databaseService = some db →
    ∃ engine, Reaches d a.application app db engine
  unlinked : d.service? databaseService = none →
    ∀ key ∈ (linkKeys a.application).all, app.environment.get? key = none
  cached : ∀ redis, d.service? cacheService = some redis →
    ∃ port, redis.ports = [port] ∧ app.environment.get? "REDIS_URL" =
      some ("redis://" ++ cacheService ++ ":" ++ Text.natText port)
  uncached : d.service? cacheService = none → app.environment.get? "REDIS_URL" = none

section

variable (a : Archetype) (appName : Option String) (engine : Option DatabaseEngine) (cache : Bool)
    (secrets : Nat → String)

/-- A variable of an application is one of those it is set up with. -/
theorem get?_application_iff {key text : String} :
    (application a appName engine cache secrets).environment.get? key = some text ↔
      (key, text) ∈ settings a.application (secrets (keyIndex engine))
        (link? a appName engine secrets) cache := by
  rw [environment_application, TextMap.get?_ofList_eq_some_iff (nodup_settings ..)]

theorem get?_application_eq_none {key : String}
    (h : key ∉ (settings a.application (secrets (keyIndex engine)) (link? a appName engine secrets)
      cache).map Prod.fst) :
    (application a appName engine cache secrets).environment.get? key = none := by
  rw [environment_application]
  exact TextMap.get?_ofList_eq_none h

/-- **What a link says is said on both of its sides.** -/
theorem reaches_linkedService {a : Application} {d : Document} {app : Service} {l : Link}
    {rootPassword : String}
    (hfound : d.service? databaseService = some (linkedService l rootPassword))
    (happ : ∀ e ∈ linkVariables a l, app.environment.get? e.1 = some e.2) :
    Reaches d a app (linkedService l rootPassword) l.engine := by
  have hdb : ∀ e ∈ databaseVariables l rootPassword,
      (linkedService l rootPassword).environment.get? e.1 = some e.2 := fun e he =>
    (TextMap.get?_ofList_eq_some_iff (nodup_databaseVariables l rootPassword)).2 he
  obtain ⟨hname, huser, hpassword⟩ :
      ((databaseKeys l.engine).name, l.name) ∈ databaseVariables l rootPassword ∧
      ((databaseKeys l.engine).user, l.user) ∈ databaseVariables l rootPassword ∧
      ((databaseKeys l.engine).password, l.password) ∈ databaseVariables l rootPassword := by
    rw [databaseVariables]
    cases l.engine <;> simp [databaseKeys]
  obtain ⟨hhost, hlinkName, hlinkUser, hlinkPassword⟩ :
      ((linkKeys a).host, databaseService) ∈ linkVariables a l ∧
      ((linkKeys a).name, l.name) ∈ linkVariables a l ∧
      ((linkKeys a).user, l.user) ∈ linkVariables a l ∧
      ((linkKeys a).password, l.password) ∈ linkVariables a l := by
    cases a <;> simp [linkKeys, linkVariables]
  have hport : ∀ key, (linkKeys a).port? = some key →
      (key, Text.natText l.engine.port) ∈ linkVariables a l := by
    cases a <;> simp [linkKeys, linkVariables]
  exact
    { image := rfl
      host := ⟨databaseService, happ _ hhost, hfound⟩
      port := ⟨l.engine.port, rfl, fun key hkey => happ _ (hport key hkey)⟩
      name := ⟨l.name, happ _ hlinkName, hdb _ hname⟩
      user := ⟨l.user, happ _ hlinkUser, hdb _ huser⟩
      password := ⟨l.password, happ _ hlinkPassword, hdb _ hpassword⟩ }

/-- An application that is linked knows all variables of its link. -/
theorem mem_settings_of_link {a : Application} {key : String} {l : Link} {cache : Bool} :
    ∀ e ∈ linkVariables a l, e ∈ settings a key (some l) cache := by
  intro e he
  rw [settings, Option.map_some, Option.getD_some]
  exact List.mem_append_left _ (List.mem_append_right _ he)

theorem not_mem_settings_of_unlinked (a : Application) (key : String) (cache : Bool) :
    ∀ k ∈ (linkKeys a).all, k ∉ (settings a key none cache).map Prod.fst := by
  cases a <;> cases cache <;>
    simp [linkKeys, LinkKeys.all, settings, ownVariables, cacheVariables]

theorem mem_settings_of_cache {a : Application} {key : String} {link? : Option Link} :
    ∀ e ∈ cacheVariables, e ∈ settings a key link? true :=
  fun _ he => List.mem_append_right _ he

theorem not_mem_settings_of_uncached (a : Application) (key : String) (link? : Option Link) :
    "REDIS_URL" ∉ (settings a key link? false).map Prod.fst := by
  cases a <;> cases link? <;> simp [settings, ownVariables, linkVariables]

/-- **The document of an archetype keeps what it promises.** -/
theorem isSetUp_document :
    IsSetUp (document a appName engine cache secrets) a
      (application a appName engine cache secrets)
      ((List.range (applicationSecrets a.application + databaseSecrets engine)).map secrets) where
  application := service?_application a appName engine cache secrets
  credentials := fun _ =>
    (mem_credentials_document a appName engine cache secrets).trans
      (perm_drawn a engine secrets).mem_iff
  apart := by
    rw [drawn_document]
    exact (perm_drawn a engine secrets).nodup_iff.2
  linked := by
    intro db hdb
    have hfound := hdb
    rw [service?_database, database?] at hdb
    obtain ⟨l, hl, rfl⟩ := Option.map_eq_some_iff.1 hdb
    refine ⟨l.engine, reaches_linkedService hfound fun e he => ?_⟩
    rw [get?_application_iff, hl]
    exact mem_settings_of_link e he
  unlinked := by
    intro hnone key hkey
    rw [service?_database, database?, Option.map_eq_none_iff] at hnone
    refine get?_application_eq_none a appName engine cache secrets ?_
    rw [hnone]
    exact not_mem_settings_of_unlinked a.application _ cache key hkey
  cached := by
    intro redis hredis
    rw [service?_cache] at hredis
    cases cache with
    | false => cases hredis
    | true =>
      obtain rfl : cachingService = redis := Option.some.inj hredis
      refine ⟨cachePort, rfl, ?_⟩
      rw [get?_application_iff]
      exact mem_settings_of_cache _ (List.mem_singleton_self _)
  uncached := by
    intro hnone
    rw [service?_cache] at hnone
    cases cache with
    | true => cases hnone
    | false =>
      exact get?_application_eq_none a appName engine false secrets
        (not_mem_settings_of_uncached a.application _ _)

end

/-- What is chosen is in the catalog. -/
theorem find?_of_choose {id : String} {o : Options} {a : Archetype}
    {engine : Option DatabaseEngine} (h : choose id o = .ok (a, engine)) :
    Archetype.find? id = some a := by
  unfold choose at h
  cases hfind : Archetype.find? id with
  | none =>
    rw [hfind] at h
    exact absurd h nofun
  | some b =>
    rw [hfind] at h
    obtain ⟨_, -, heq⟩ := Outcome.bind_eq_ok.1 h
    exact congrArg some (Prod.mk.inj (Outcome.pure_eq_ok.1 heq)).1

/-- **Credentials go where their keys tell, and services reach each other.**  For two streams, an
archetype is set up with neither, and then nothing is drawn, or with both: the documents differ in
credentials only, and each has the credentials drawn from its stream. -/
theorem setUp_wires (id : String) (o : Options) (secrets other : Nat → String) :
    (∃ v, compile id o secrets = .error v ∧ compile id o other = .error v ∧
      (setUp id o secrets).run.run 0 = (.error v, 0) ∧
      (setUp id o other).run.run 0 = (.error v, 0)) ∨
    ∃ a d e n app, Archetype.find? id = some a ∧
      compile id o secrets = .ok d ∧ compile id o other = .ok e ∧
      (setUp id o secrets).run.run 0 = (.ok d, n) ∧ (setUp id o other).run.run 0 = (.ok e, n) ∧
      d.SameBut .byKey e ∧ IsSetUp d a app ((List.range n).map secrets) := by
  simp only [run_setUp]
  cases hchoose : choose id o with
  | error v =>
    have hcompile (s : Nat → String) : compile id o s = .error v := by
      rw [compile_eq, hchoose]
      rfl
    have hdrawn : secretsDrawn id o = 0 := by
      unfold secretsDrawn
      rw [hchoose]
    rw [hcompile, hcompile, hdrawn]
    exact Or.inl ⟨v, rfl, rfl, rfl, rfl⟩
  | ok p =>
    obtain ⟨a, engine⟩ := p
    let cache := a.bundledCache || o.cache
    have hcompile (s : Nat → String) :
        compile id o s = .ok (document a o.appName engine cache s) := by
      rw [compile_eq, hchoose]
      rfl
    have hdrawn :
        secretsDrawn id o = applicationSecrets a.application + databaseSecrets engine := by
      unfold secretsDrawn
      rw [hchoose]
    have hconceal (s : Nat → String) : (document a o.appName engine cache s).conceal .byKey =
        document a o.appName engine cache fun _ => concealed :=
      conceal_document a o.appName engine cache s
    simp only [hcompile, hdrawn]
    exact Or.inr ⟨a, _, _, _, _, find?_of_choose hchoose, rfl, rfl, rfl, rfl,
      (hconceal secrets).trans (hconceal other).symm,
      isSetUp_document a o.appName engine cache secrets⟩

/-- Rails with a database and a cache. -/
def cachedRails : Options := { database := some .mysql, cache := true }

/-- Three secrets are drawn, and the two runs differ in nothing else. -/
theorem setUp_wires_cachedRails :
    ∃ d e app db engine, (setUp "rails" cachedRails Secret.ofNumber).run.run 0 = (.ok d, 3) ∧
      (setUp "rails" cachedRails Text.natText).run.run 0 = (.ok e, 3) ∧ d.SameBut .byKey e ∧
      d.service? "app" = some app ∧ d.service? "db" = some db ∧
      Reaches d .rails app db engine ∧ (d.valuesUnder drawnKeys.contains).Nodup ∧
      ∀ text ∈ d.credentials, Secret.isGenerated text = true := by
  have hchoose : choose "rails" cachedRails = .ok (.rails, some .mysql) := rfl
  have hdrawn : secretsDrawn "rails" cachedRails = 3 := by
    unfold secretsDrawn
    rw [hchoose]
    rfl
  have hnodup : ((List.range 3).map Secret.ofNumber).Nodup := by
    have hfew : 3 ≤ Secret.count := by decide
    refine List.Nodup.map_on (fun m hm n hn => ?_) List.nodup_range
    exact Secret.ofNumber_inj ((List.mem_range.1 hm).trans_le hfew)
      ((List.mem_range.1 hn).trans_le hfew)
  -- the choice can be made, so the first case of the theorem is out
  rcases setUp_wires "rails" cachedRails Secret.ofNumber Text.natText with
    ⟨v, herror, -⟩ | ⟨a, d, e, n, app, hfind, hd, -, hrun, hrun', hsame, hsetUp⟩
  · rw [compile_eq, hchoose] at herror
    cases herror
  · obtain rfl : Archetype.rails = a := Option.some.inj hfind
    have hcount : secretsDrawn "rails" cachedRails = n :=
      congrArg Prod.snd ((run_setUp Secret.ofNumber "rails" cachedRails).symm.trans hrun)
    obtain rfl : 3 = n := hdrawn.symm.trans hcount
    obtain ⟨db, hdb⟩ : ∃ db, d.service? databaseService = some db := by
      rw [compile_eq, hchoose] at hd
      obtain rfl := Except.ok.inj hd
      exact ⟨_, service?_database .rails none (some .mysql) true Secret.ofNumber⟩
    obtain ⟨engine, hreaches⟩ := hsetUp.linked db hdb
    refine ⟨d, e, app, db, engine, hrun, hrun', hsame, hsetUp.application, hdb, hreaches,
      hsetUp.apart hnodup, fun text htext => ?_⟩
    obtain ⟨k, -, rfl⟩ := List.mem_map.1 ((hsetUp.credentials text).1 htext)
    exact Secret.isGenerated_ofNumber k

end Wizard

end Deployment
