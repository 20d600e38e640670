import Deployment.Proofs.Concealment
import Deployment.Proofs.Wizard

/-!
# Proofs/Wizard/Concealment — archetypes with their credentials concealed

Credentials go under keys that tell so (`Wizard.isCredentialKey_eq_contains`) and nowhere else: with
the values under such keys concealed, the document of an archetype is the same whatever the
credentials are (`Wizard.conceal_document`).
-/

namespace Deployment

/-- Variables are secrets where their keys tell that they are credentials. -/
def Secrets.byKey : Secrets where
  environment _ := isCredentialKey
  registry _ _ := false

/-! ## Variables

A variable is concealed by its key alone. So where two predicates agree on the keys of a list, they
conceal the same of it. -/

/-- Variables with credentials concealed. -/
def concealIn (p : String → Bool) (es : List (String × String)) : List (String × String) :=
  es.map fun e => (e.1, if p e.1 then concealed else e.2)

theorem concealIn_append (p : String → Bool) (es fs : List (String × String)) :
    concealIn p (es ++ fs) = concealIn p es ++ concealIn p fs := List.map_append

theorem concealIn_congr {p q : String → Bool} {es : List (String × String)}
    (h : ∀ e ∈ es, p e.1 = q e.1) : concealIn p es = concealIn q es :=
  List.map_congr_left fun e he => by rw [h e he]

/-- Concealing variables is concealing the environment of them. -/
theorem conceal_ofList (p : String → Bool) (es : List (String × String)) :
    Environment.conceal p (.ofList es) = .ofList (concealIn p es) :=
  (TextMap.ofList_map _ es).symm

namespace Wizard

/-! ## The keys of archetypes

Whether a key marks a credential is a question about its text. Archetypes use a few fixed keys, so
it is answered once for all of them (`isCredentialKey_eq_contains`). -/

/-- The keys of credentials that archetypes set. -/
def credentialKeys : List String :=
  ["WORDPRESS_DB_PASSWORD", "DATABASE_PASSWORD", "SECRET_KEY_BASE", "MYSQL_PASSWORD",
    "MYSQL_ROOT_PASSWORD", "POSTGRES_PASSWORD"]

/-- The other keys that they set. -/
def plainKeys : List String :=
  ["NODE_ENV", "PYTHONUNBUFFERED", "DJANGO_DEBUG", "RAILS_ENV", "RAILS_LOG_TO_STDOUT",
    "WORDPRESS_DB_HOST", "WORDPRESS_DB_NAME", "WORDPRESS_DB_USER", "DATABASE_HOST",
    "DATABASE_PORT", "DATABASE_NAME", "DATABASE_USER", "REDIS_URL", "MYSQL_DATABASE", "MYSQL_USER",
    "POSTGRES_DB", "POSTGRES_USER"]

/-- **The keys of credentials tell that they are**, and the other keys do not. -/
theorem isCredentialKey_eq_contains :
    ∀ key ∈ credentialKeys ++ plainKeys, isCredentialKey key = credentialKeys.contains key := by
  decide +kernel

/-- Whether variables have keys that archetypes set. -/
def AreKnown (es : List (String × String)) : Prop := ∀ e ∈ es, e.1 ∈ credentialKeys ++ plainKeys

theorem areKnown_ownVariables (a : Application) (key : String) : AreKnown (ownVariables a key) := by
  cases a <;> simp [AreKnown, ownVariables, credentialKeys, plainKeys]

theorem areKnown_linkVariables (a : Application) (l : Link) : AreKnown (linkVariables a l) := by
  cases a <;> simp [AreKnown, linkVariables, credentialKeys, plainKeys]

theorem areKnown_cacheVariables : AreKnown cacheVariables := by
  simp [AreKnown, cacheVariables, credentialKeys, plainKeys]

theorem areKnown_databaseVariables (l : Link) (rootPassword : String) :
    AreKnown (databaseVariables l rootPassword) := by
  unfold databaseVariables
  cases l.engine <;> simp [AreKnown, credentialKeys, plainKeys]

/-- For known keys, telling whether they are of credentials is looking them up. -/
theorem AreKnown.isCredentialKey_eq {es : List (String × String)} (h : AreKnown es) :
    ∀ e ∈ es, isCredentialKey e.1 = credentialKeys.contains e.1 :=
  fun e he => isCredentialKey_eq_contains e.1 (h e he)

/-! ## Credentials are concealed -/

/-- The key of an application is concealed, and nothing else of it. -/
theorem concealIn_ownVariables (a : Application) (key : String) :
    concealIn isCredentialKey (ownVariables a key) = ownVariables a concealed := by
  rw [concealIn_congr (areKnown_ownVariables a key).isCredentialKey_eq]
  cases a <;> simp [concealIn, ownVariables, credentialKeys]

/-- A link with its password concealed. -/
def Link.conceal (l : Link) : Link := { l with password := concealed }

/-- A link is concealed in its password. -/
theorem conceal_link (a : Application) (appName : Option String) (engine : DatabaseEngine)
    (password : String) :
    (link a appName engine password).conceal = link a appName engine concealed := by
  cases a <;> simp only [link, Link.conceal]

/-- The application repeats the password, and no other variable of the link is a secret. -/
theorem concealIn_linkVariables (a : Application) (l : Link) :
    concealIn isCredentialKey (linkVariables a l) = linkVariables a l.conceal := by
  rw [concealIn_congr (areKnown_linkVariables a l).isCredentialKey_eq]
  cases a <;> simp [concealIn, linkVariables, credentialKeys, Link.conceal]

theorem concealIn_cacheVariables : concealIn isCredentialKey cacheVariables = cacheVariables := by
  rw [concealIn_congr areKnown_cacheVariables.isCredentialKey_eq]
  simp [concealIn, cacheVariables, credentialKeys]

theorem concealIn_databaseVariables (l : Link) (rootPassword : String) :
    concealIn isCredentialKey (databaseVariables l rootPassword) =
      databaseVariables l.conceal concealed := by
  rw [concealIn_congr (areKnown_databaseVariables l rootPassword).isCredentialKey_eq,
    databaseVariables, databaseVariables, Link.conceal]
  cases l.engine <;> simp [concealIn, credentialKeys]

theorem conceal_applicationService (a : Archetype) (es : List (String × String)) :
    (applicationService a es).conceal .byKey =
      applicationService a (concealIn isCredentialKey es) := by
  rw [Service.conceal, Secrets.byKey, applicationService, applicationService]
  cases a.application <;> simp only [conceal_ofList, Option.map_none]

/-- **A database that is concealed is the one of a concealed link.** -/
theorem conceal_linkedService (l : Link) (rootPassword : String) :
    (linkedService l rootPassword).conceal .byKey = linkedService l.conceal concealed := by
  rw [Service.conceal, Secrets.byKey, linkedService, linkedService]
  simp only [conceal_ofList, concealIn_databaseVariables, Option.map_none]
  rfl

section

variable (a : Archetype) (appName : Option String) (engine : Option DatabaseEngine) (cache : Bool)
    (secrets : Nat → String)

/-- An application with its secrets concealed is the one that was given concealed ones. -/
theorem conceal_application :
    (application a appName engine cache secrets).conceal .byKey =
      application a appName engine cache fun _ => concealed := by
  have hsettings (link? : Option Link) : concealIn isCredentialKey
      (settings a.application (secrets (keyIndex engine)) link? cache) =
        settings a.application concealed (link?.map Link.conceal) cache := by
    cases link? <;> cases cache <;>
      simp [settings, concealIn_append, concealIn_ownVariables, concealIn_linkVariables,
        concealIn_cacheVariables]
  have hlink : (link? a appName engine secrets).map Link.conceal =
      link? a appName engine fun _ => concealed := by
    cases engine <;> simp [link?, conceal_link]
  rw [application, conceal_applicationService, hsettings, hlink, application]

theorem conceal_database? :
    (database? a appName engine secrets).map (Service.conceal .byKey) =
      database? a appName engine fun _ => concealed := by
  cases engine <;> simp [database?, link?, conceal_linkedService, conceal_link]

/-- Concealing changes no mounts, so the same volumes are declared. -/
theorem conceal_listed (S : Secrets) (services : List Service) (volumes : NameSet) :
    (listed services volumes).conceal S = listed (services.map (Service.conceal S)) volumes := by
  rw [listed, Document.conceal, listed, List.map_map, List.map_map]
  rfl

/-- **The document of an archetype with its credentials concealed does not depend on the
stream.** -/
theorem conceal_document :
    (document a appName engine cache secrets).conceal .byKey =
      document a appName engine cache fun _ => concealed := by
  have hcaching : (if cache then [cachingService] else []).map (Service.conceal .byKey) =
      if cache then [cachingService] else [] := by
    cases cache <;> rfl
  have hservices : (servicesOf (application a appName engine cache secrets)
      (database? a appName engine secrets) cache).map (Service.conceal .byKey) =
        servicesOf (application a appName engine cache fun _ => concealed)
          (database? a appName engine fun _ => concealed) cache := by
    rw [servicesOf, List.map_append, List.map_append, List.map_singleton, conceal_application,
      ← Option.toList_map, conceal_database?, hcaching, servicesOf]
  have hvolumes : volumesOf (application a appName engine cache secrets)
      (database? a appName engine secrets) =
        volumesOf (application a appName engine cache fun _ => concealed)
          (database? a appName engine fun _ => concealed) := by
    rw [← conceal_application a appName engine cache secrets,
      ← conceal_database? a appName engine secrets, volumesOf, volumesOf, Option.isSome_map]
    rfl
  rw [document, conceal_listed, hservices, hvolumes, document]

end

end Wizard

end Deployment
