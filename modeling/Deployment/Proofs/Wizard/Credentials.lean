import Mathlib.Data.List.Perm.Basic
import Deployment.Proofs.Wizard.Concealment
import Deployment.Proofs.Wizard.Drawing

/-!
# Proofs/Wizard/Credentials — the credentials of an archetype are those drawn for it

What stands under keys of credentials are the credentials drawn, however often each is written down
(`Wizard.mem_credentials_document`); under the keys that they are drawn for, each stands once
(`Wizard.drawn_document`).  They are the first of the stream (`Wizard.perm_drawn`).
-/

namespace Deployment

/-- The values under keys of a kind. -/
def valuesUnder (p : String → Bool) (es : List (String × String)) : List String :=
  (es.filter fun e => p e.1).map Prod.snd

theorem valuesUnder_append (p : String → Bool) (es fs : List (String × String)) :
    valuesUnder p (es ++ fs) = valuesUnder p es ++ valuesUnder p fs := by
  rw [valuesUnder, List.filter_append, List.map_append]
  rfl

theorem valuesUnder_congr {p q : String → Bool} {es : List (String × String)}
    (h : ∀ e ∈ es, p e.1 = q e.1) : valuesUnder p es = valuesUnder q es :=
  congrArg (List.map Prod.snd) (List.filter_congr h)

/-- The values of a service under keys of a kind. -/
def Service.valuesUnder (p : String → Bool) (s : Service) : List String :=
  Deployment.valuesUnder p s.environment.entries

/-- The values that the services of a document have under keys of a kind. -/
def Document.valuesUnder (p : String → Bool) (d : Document) : List String :=
  d.services.flatMap fun e => e.2.valuesUnder p

/-- **The credentials of a document**: what stands under keys that tell so. -/
def Document.credentials (d : Document) : List String := d.valuesUnder isCredentialKey

namespace Wizard

/-! ## The variables of an archetype -/

/-- No variable of an application is bound twice. -/
theorem nodup_settings (a : Application) (key : String) (link? : Option Link) (cache : Bool) :
    ((settings a key link? cache).map Prod.fst).Nodup := by
  cases a <;> cases link? <;> cases cache <;>
    simp [settings, ownVariables, linkVariables, cacheVariables]

theorem nodup_databaseVariables (l : Link) (rootPassword : String) :
    ((databaseVariables l rootPassword).map Prod.fst).Nodup := by
  unfold databaseVariables
  cases l.engine <;> simp

/-- The key of an application, if it has one. -/
def ownKey? (a : Application) (key : String) : Option String :=
  if a = .rails then some key else none

/-- The password of a database's administrator, if it has one. -/
def rootPassword? (engine : DatabaseEngine) (rootPassword : String) : Option String :=
  if engine = .mysql then some rootPassword else none

/-- The only credential of an application itself is its key. -/
theorem credentials_ownVariables (a : Application) (key : String) :
    valuesUnder isCredentialKey (ownVariables a key) = (ownKey? a key).toList := by
  rw [valuesUnder_congr (areKnown_ownVariables a key).isCredentialKey_eq]
  cases a <;> simp [valuesUnder, ownVariables, credentialKeys, ownKey?]

theorem credentials_linkVariables (a : Application) (l : Link) :
    valuesUnder isCredentialKey (linkVariables a l) = [l.password] := by
  rw [valuesUnder_congr (areKnown_linkVariables a l).isCredentialKey_eq]
  cases a <;> simp [valuesUnder, linkVariables, credentialKeys]

theorem credentials_cacheVariables : valuesUnder isCredentialKey cacheVariables = [] := by
  rw [valuesUnder_congr areKnown_cacheVariables.isCredentialKey_eq]
  simp [valuesUnder, cacheVariables, credentialKeys]

/-- A database has its password, and some have one for the root. -/
theorem credentials_databaseVariables (l : Link) (rootPassword : String) :
    valuesUnder isCredentialKey (databaseVariables l rootPassword) =
      l.password :: (rootPassword? l.engine rootPassword).toList := by
  rw [valuesUnder_congr (areKnown_databaseVariables l rootPassword).isCredentialKey_eq,
    databaseVariables, rootPassword?]
  cases l.engine <;> simp [valuesUnder, credentialKeys]

/-- **The credentials of an application are its key and the password of its database.** -/
theorem credentials_settings (a : Application) (key : String) (link? : Option Link)
    (cache : Bool) :
    valuesUnder isCredentialKey (settings a key link? cache) =
      (ownKey? a key).toList ++ (link?.map Link.password).toList := by
  have hlink : valuesUnder isCredentialKey ((link?.map (linkVariables a)).getD []) =
      (link?.map Link.password).toList := by
    cases link? with
    | none => rfl
    | some l => exact credentials_linkVariables a l
  have hcache : valuesUnder isCredentialKey (if cache then cacheVariables else []) = [] := by
    cases cache with
    | false => rfl
    | true => exact credentials_cacheVariables
  rw [settings, valuesUnder_append, valuesUnder_append, credentials_ownVariables, hlink, hcache,
    List.append_nil]

/-- The keys for whose values credentials are drawn; other credentials are copies of these. -/
def drawnKeys : List String :=
  ["SECRET_KEY_BASE", "MYSQL_PASSWORD", "MYSQL_ROOT_PASSWORD", "POSTGRES_PASSWORD"]

/-- Only the key is drawn for the application; the password was drawn for the database. -/
theorem drawn_settings (a : Application) (key : String) (link? : Option Link) (cache : Bool) :
    valuesUnder drawnKeys.contains (settings a key link? cache) = (ownKey? a key).toList := by
  cases a <;> cases link? <;> cases cache <;>
    simp [valuesUnder, settings, ownVariables, linkVariables, cacheVariables, drawnKeys, ownKey?]

theorem drawn_databaseVariables (l : Link) (rootPassword : String) :
    valuesUnder drawnKeys.contains (databaseVariables l rootPassword) =
      l.password :: (rootPassword? l.engine rootPassword).toList := by
  rw [databaseVariables, rootPassword?]
  cases l.engine <;> simp [valuesUnder, drawnKeys]

/-! ## The services of an archetype

A document lists its services, so its credentials are theirs in this order. -/

section

variable (a : Archetype) (appName : Option String) (engine : Option DatabaseEngine) (cache : Bool)
    (secrets : Nat → String)

/-- An application is set up with the secret of its index. -/
theorem environment_application :
    (application a appName engine cache secrets).environment =
      .ofList (settings a.application (secrets (keyIndex engine)) (link? a appName engine secrets)
        cache) :=
  environment_applicationService a _

/-- The values of a document are those of its services, one after the other. -/
theorem valuesUnder_listed (p : String → Bool) (services : List Service) (volumes : NameSet) :
    (listed services volumes).valuesUnder p = services.flatMap (Service.valuesUnder p) := by
  rw [Document.valuesUnder, listed, List.flatMap_map]

/-- The values of the application, then those of the database; the cache has none. -/
theorem valuesUnder_document (p : String → Bool) :
    (document a appName engine cache secrets).valuesUnder p =
      Deployment.valuesUnder p (settings a.application (secrets (keyIndex engine))
        (link? a appName engine secrets) cache) ++
      (link? a appName engine secrets).toList.flatMap fun l => Deployment.valuesUnder p
        (databaseVariables l (secrets (keyIndex engine + applicationSecrets a.application))) := by
  have happlication : (application a appName engine cache secrets).valuesUnder p =
      Deployment.valuesUnder p (settings a.application (secrets (keyIndex engine))
        (link? a appName engine secrets) cache) := by
    rw [Service.valuesUnder, environment_application,
      TextMap.entries_ofList_of_nodup (nodup_settings ..)]
  have hlinked (l : Link) (rootPassword : String) : (linkedService l rootPassword).valuesUnder p =
      Deployment.valuesUnder p (databaseVariables l rootPassword) :=
    congrArg (Deployment.valuesUnder p)
      (TextMap.entries_ofList_of_nodup (nodup_databaseVariables l rootPassword))
  have hcache : (if cache then [cachingService] else []).flatMap (Service.valuesUnder p) = [] := by
    cases cache <;> rfl
  rw [document, valuesUnder_listed, servicesOf, List.flatMap_append, List.flatMap_append,
    hcache, List.append_nil, List.flatMap_singleton, happlication, database?]
  cases link? a appName engine secrets with
  | none => rfl
  | some l => simp only [Option.map_some, Option.toList_some, List.flatMap_singleton, hlinked]

/-- The credentials drawn for an archetype, in the order of its services. -/
def drawn : List String :=
  (ownKey? a.application (secrets (keyIndex engine))).toList ++
    engine.toList.flatMap fun e => secrets 0 ::
      (rootPassword? e (secrets (keyIndex engine + applicationSecrets a.application))).toList

theorem link_password (a : Application) (appName : Option String) (engine : DatabaseEngine)
    (password : String) : (link a appName engine password).password = password := by
  cases a <;> rfl

/-- **Every credential that is drawn is used once** under a key that it is drawn for. -/
theorem drawn_document :
    (document a appName engine cache secrets).valuesUnder drawnKeys.contains =
      drawn a engine secrets := by
  rw [valuesUnder_document, drawn_settings, drawn, link?]
  cases engine <;> simp [drawn_databaseVariables, link_password, engine_link]

/-- **A credential of the document is one of the secrets that were drawn.** -/
theorem mem_credentials_document {text : String} :
    text ∈ (document a appName engine cache secrets).credentials ↔
      text ∈ drawn a engine secrets := by
  rw [Document.credentials, valuesUnder_document, credentials_settings, drawn, link?]
  cases engine <;> simp [credentials_databaseVariables, link_password, engine_link]

/-- **The credentials drawn are the first of the stream.** -/
theorem perm_drawn :
    (drawn a engine secrets).Perm
      ((List.range (applicationSecrets a.application + databaseSecrets engine)).map secrets) := by
  by_cases h : a.application = .rails <;> rcases engine with _ | _ | _ <;>
    simp [drawn, ownKey?, rootPassword?, keyIndex, applicationSecrets, databaseSecrets, h,
      List.range_succ, List.Perm.swap]

end

end Wizard

end Deployment
