import Deployment.Text.Blank
import Deployment.Text.Lowercase

/-!
# DatabaseEngine — databases that can be set up
-/

namespace Deployment

/-- A database that can be set up. -/
inductive DatabaseEngine where
  | mysql
  | postgres
  deriving DecidableEq, Inhabited

namespace DatabaseEngine

/-- The name of an engine. -/
def name : DatabaseEngine → String
  | mysql => "mysql"
  | postgres => "postgres"

/-- The image of an engine. -/
def image : DatabaseEngine → String
  | mysql => "mysql:8.0"
  | postgres => "postgres:15"

/-- The port that an engine listens on. -/
def port : DatabaseEngine → Nat
  | mysql => 3306
  | postgres => 5432

/-- The directory where an engine keeps its data. -/
def dataPath : DatabaseEngine → String
  | mysql => "/var/lib/mysql"
  | postgres => "/var/lib/postgresql/data"

/-- The engine that a text names, without regard to case and blanks around it. -/
def ofText (text : String) : Except String DatabaseEngine :=
  let word := Text.asciiLower (Text.trim text)
  if word = "mysql" then return mysql
  else if word = "postgres" ∨ word = "postgresql" then return postgres
  else throw ("unknown database engine '" ++ word ++ "'")

end DatabaseEngine

end Deployment
