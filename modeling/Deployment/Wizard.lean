import Deployment.Archetype
import Deployment.Document
import Deployment.ResourceTier
import Deployment.Volume

/-!
# Wizard — documents of archetypes

An archetype with a few choices becomes the document that a manifest would give: the application,
then its database, then its cache. Services find each other by name. Credentials are taken from a
stream: first the password of the database, then the key of the application, then the password of
the database's administrator, as far as they are needed.
-/

namespace Deployment

namespace Wizard

/-- What can be chosen about an archetype. -/
structure Options where
  appName : Option String := none
  database : Option DatabaseEngine := none
  cache : Bool := false
  tier : ResourceTier := .small
  deriving DecidableEq, Inhabited

/-- The name of the database service. -/
def databaseService : String := "db"

/-- The name of the cache service. -/
def cacheService : String := "redis"

/-- The image of the cache. -/
def cacheImage : String := "redis:alpine"

/-- The port of the cache. -/
def cachePort : Nat := 6379

/-- The volume of the database. -/
def dataVolume : String := "db_data"

/-- The version that the document states. -/
def manifestVersion : String := "3.8"

/-- How an application reaches its database. -/
structure Link where
  engine : DatabaseEngine
  name : String
  user : String
  password : String
  deriving DecidableEq

/-- The name of a database for an application: small letters, digits and underscores, and not
underscores alone. -/
def databaseName (appName : Option String) : String :=
  let lowered := Text.asciiLower (Text.trim (appName.getD ""))
  let name := lowered.toList.map fun c => if c.isAlphanum then c else '_'
  if name.all (· == '_') then "app" else String.ofList name

/-- The link to a database. -/
def link (a : Application) (appName : Option String) (engine : DatabaseEngine)
    (password : String) : Link :=
  match a with
  | .blog => ⟨engine, "wordpress", "wordpress", password⟩
  | _ => ⟨engine, databaseName appName, "appuser", password⟩

/-- The variables that an application starts with, given its key. -/
def ownVariables (a : Application) (key : String) : List (String × String) :=
  match a with
  | .blog => []
  | .node _ => [("NODE_ENV", "production")]
  | .django => [("PYTHONUNBUFFERED", "1"), ("DJANGO_DEBUG", "False")]
  | .rails =>
    [("RAILS_ENV", "production"), ("RAILS_LOG_TO_STDOUT", "1"), ("SECRET_KEY_BASE", key)]

/-- The variables by which an application reaches its database. -/
def linkVariables (a : Application) (l : Link) : List (String × String) :=
  match a with
  | .blog => [
      ("WORDPRESS_DB_HOST", databaseService),
      ("WORDPRESS_DB_NAME", l.name),
      ("WORDPRESS_DB_USER", l.user),
      ("WORDPRESS_DB_PASSWORD", l.password)]
  | _ => [
      ("DATABASE_HOST", databaseService),
      ("DATABASE_PORT", Text.natText l.engine.port),
      ("DATABASE_NAME", l.name),
      ("DATABASE_USER", l.user),
      ("DATABASE_PASSWORD", l.password)]

/-- The variables by which an application reaches its cache. -/
def cacheVariables : List (String × String) :=
  [("REDIS_URL", "redis://" ++ cacheService ++ ":" ++ Text.natText cachePort)]

/-- The variables of a database, given the password of its administrator. -/
def databaseVariables (l : Link) (rootPassword : String) : List (String × String) :=
  match l.engine with
  | .mysql => [
      ("MYSQL_DATABASE", l.name),
      ("MYSQL_USER", l.user),
      ("MYSQL_PASSWORD", l.password),
      ("MYSQL_ROOT_PASSWORD", rootPassword)]
  | .postgres => [
      ("POSTGRES_DB", l.name),
      ("POSTGRES_USER", l.user),
      ("POSTGRES_PASSWORD", l.password)]

/-- The directory of the sources of an application in its container. -/
def workingDirectory : Value × Value := (.string "working_dir", .string "/app")

/-- The service of an application with its variables. -/
def applicationService (a : Archetype) (settings : List (String × String)) : Service :=
  let sources := ["./app:/app"]
  let environment := .ofList settings
  match a.application with
  | .blog =>
    { name := a.service, image := "wordpress:latest", ports := [80], environment
      volumes := ["web_data:/var/www/html"] }
  | .node command =>
    { name := a.service, image := "node:18-alpine", ports := [3000], environment
      volumes := sources
      extra := [workingDirectory, (.string "command", .string command)] }
  | .django =>
    { name := a.service, image := "python:3.12-slim", ports := [8000], environment
      volumes := sources, extra := [workingDirectory] }
  | .rails =>
    { name := a.service, image := "ruby:3.3-slim", ports := [3000], environment
      volumes := sources, extra := [workingDirectory] }

/-- The service of a database. -/
def linkedService (l : Link) (rootPassword : String) : Service :=
  { name := databaseService
    image := l.engine.image
    ports := [l.engine.port]
    environment := .ofList (databaseVariables l rootPassword)
    volumes := [dataVolume ++ ":" ++ l.engine.dataPath] }

/-- The service of the cache. -/
def cachingService : Service :=
  { name := cacheService, image := cacheImage, ports := [cachePort] }

/-- The volumes that the mounts of a service name. -/
def namedVolumes (s : Service) : List String :=
  s.volumes.filterMap fun entry =>
    match VolumeSource.ofEntry entry with
    | .named name => some name
    | _ => none

/-- The credentials that the application needs. -/
def applicationSecrets (a : Application) : Nat := if a = .rails then 1 else 0

/-- The credentials that a database needs. -/
def databaseSecrets : Option DatabaseEngine → Nat
  | none => 0
  | some .mysql => 2
  | some .postgres => 1

/-- The place of the key of the application in the stream, behind the password of its database. -/
def keyIndex (engine : Option DatabaseEngine) : Nat := if engine.isSome then 1 else 0

/-- The link of an application to its database, if it has one. -/
def link? (a : Archetype) (appName : Option String) (engine : Option DatabaseEngine)
    (secrets : Nat → String) : Option Link :=
  engine.map fun e => link a.application appName e (secrets 0)

/-- The variables of an application, with a database and a cache as it has them. -/
def settings (a : Application) (key : String) (link? : Option Link) (cache : Bool) :
    List (String × String) :=
  ownVariables a key ++ (link?.map (linkVariables a)).getD [] ++
    if cache then cacheVariables else []

/-- The application of an archetype with its variables, the credentials taken from a stream. -/
def application (a : Archetype) (appName : Option String) (engine : Option DatabaseEngine)
    (cache : Bool) (secrets : Nat → String) : Service :=
  applicationService a (settings a.application (secrets (keyIndex engine))
    (link? a appName engine secrets) cache)

/-- The database of an archetype, if it has one, the credentials taken from a stream. -/
def database? (a : Archetype) (appName : Option String) (engine : Option DatabaseEngine)
    (secrets : Nat → String) : Option Service :=
  (link? a appName engine secrets).map fun l =>
    linkedService l (secrets (keyIndex engine + applicationSecrets a.application))

/-- The document of an application alone, the volumes declared that it names. -/
def started (app : Service) : Except Violation Document :=
  let bare : Document := { extensions := [(.string "version", .string manifestVersion)] }
  ((namedVolumes app).foldl Document.declare bare).add app

/-- Add a database if there is one, and declare the volume of its data. -/
def withDatabase (d : Document) : Option Service → Except Violation Document
  | some db => (·.declare dataVolume) <$> d.add db
  | none => return d

/-- Add the cache if it is wanted. -/
def withCache (d : Document) (cache : Bool) : Except Violation Document :=
  if cache then d.add cachingService else return d

/-- The document of an application with a database or without, and with a cache or without. -/
def documentOf (app : Service) (db? : Option Service) (cache : Bool) :
    Except Violation Document := do
  withCache (← withDatabase (← started app) db?) cache

/-- The archetype of a name, and the database that it gets. -/
def choose (id : String) (o : Options) :
    Except Violation (Archetype × Option DatabaseEngine) :=
  match Archetype.find? id with
  | none => throw (.unknownArchetype id)
  | some a => do return (a, ← a.select o.database)

/-- The document of the archetype of a name, the credentials taken from a stream. -/
def compile (id : String) (o : Options) (secrets : Nat → String) :
    Except Violation Document := do
  let (a, engine) ← choose id o
  let cache := a.bundledCache || o.cache
  documentOf (application a o.appName engine cache secrets)
    (database? a o.appName engine secrets) cache

/-- The number of credentials that a document takes from its stream. -/
def secretsDrawn (id : String) (o : Options) : Nat :=
  match choose id o with
  | .ok (a, engine) => applicationSecrets a.application + databaseSecrets engine
  | .error _ => 0

/-- No document takes more credentials than these. -/
def mostSecrets : Nat := 3

/-- A database takes two credentials at most. -/
theorem databaseSecrets_le (engine : Option DatabaseEngine) : databaseSecrets engine ≤ 2 := by
  match engine with
  | none => exact Nat.zero_le _
  | some .mysql => exact Nat.le_refl _
  | some .postgres => exact Nat.le_succ _

/-- **Every document takes as few**, so that many drawn beforehand are enough. -/
theorem secretsDrawn_le (id : String) (o : Options) : secretsDrawn id o ≤ mostSecrets := by
  unfold secretsDrawn mostSecrets
  split
  · rename_i a engine _
    have h : applicationSecrets a.application ≤ 1 := by
      unfold applicationSecrets
      split <;> simp
    exact Nat.add_le_add h (databaseSecrets_le engine)
  · exact Nat.zero_le _

end Wizard

end Deployment
