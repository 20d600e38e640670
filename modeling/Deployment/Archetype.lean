import Deployment.DatabaseEngine
import Deployment.Violation

/-!
# Archetype — kinds of deployments to choose from

The catalog holds the kinds of applications that can be set up without a manifest. An archetype is
found by its name or an older name, without regard to case and blanks around it.
-/

namespace Deployment

/-- What an archetype makes of the choice of a database. -/
inductive DatabasePolicy where
  /-- No database unless one is asked for. -/
  | optional
  /-- Always a database, this one unless another is asked for. -/
  | bundled (engine : DatabaseEngine)
  /-- Always this database. -/
  | fixed (engine : DatabaseEngine)
  deriving DecidableEq

/-- The application of an archetype. -/
inductive Application where
  | blog
  | node (command : String)
  | django
  | rails
  deriving DecidableEq

/-- A kind of deployment. -/
structure Archetype where
  id : String
  name : String
  description : String
  /-- Older names. -/
  aliases : List String
  database : DatabasePolicy
  bundledCache : Bool
  application : Application
  deriving DecidableEq

namespace Archetype

/-- A blog with its database. -/
def blog : Archetype :=
  ⟨"blog+database", "WordPress", "Blog & CMS platform with MySQL", ["wordpress"], .fixed .mysql,
    false, .blog⟩

/-- An application on Node. -/
def node : Archetype :=
  ⟨"node-app", "Node.js", "Express, NestJS", ["nodejs"], .optional, false, .node "npm start"⟩

/-- An application on Next. -/
def next : Archetype :=
  ⟨"next-app", "Next.js", "React framework", ["nextjs"], .optional, false, .node "npm run start"⟩

/-- An application on Django. -/
def django : Archetype :=
  ⟨"django-app", "Django", "Python framework with PostgreSQL", ["django"], .bundled .postgres,
    false, .django⟩

/-- An interface on Rails with database and cache. -/
def rails : Archetype :=
  ⟨"api+database+cache", "Rails", "Ruby API with PostgreSQL and Redis", ["rails"],
    .bundled .postgres, true, .rails⟩

/-- All archetypes. -/
def catalog : List Archetype := [blog, node, next, django, rails]

/-- The archetype that a text names. -/
def find? (text : String) : Option Archetype :=
  let id := Text.asciiLower (Text.trim text)
  catalog.find? fun a => a.id == id || a.aliases.contains id

/-- The name of the service of the application. -/
def service (a : Archetype) : String :=
  match a.application with
  | .blog => "web"
  | _ => "app"

/-- The database that is set up when one is asked for or none is. -/
def select (a : Archetype) (asked : Option DatabaseEngine) :
    Except Violation (Option DatabaseEngine) :=
  match a.database, asked with
  | .optional, asked => return asked
  | .bundled engine, asked => return some (asked.getD engine)
  | .fixed engine, none => return some engine
  | .fixed engine, some other =>
    if other = engine then return some engine
    else throw (.unsupportedDatabase a.id other.name)

end Archetype

end Deployment
