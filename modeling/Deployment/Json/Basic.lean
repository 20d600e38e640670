import Deployment.Value.Number

/-!
# Json/Basic — JSON values

An object keeps its members in the order they were written, repeated names included: what becomes
of a repeated name is decided where the object is decoded.
-/

namespace Deployment

/-- A JSON value. -/
inductive Json where
  | null
  | bool (b : Bool)
  | number (n : Number)
  | string (s : String)
  | array (items : List Json)
  | object (members : List (String × Json))
  deriving Inhabited

namespace Json

/-- An integer. -/
def int (i : Int) : Json := number (.int i)

/-- A natural number. -/
def nat (n : Nat) : Json := int n

/-- A string, or null. -/
def optional (s : Option String) : Json := (s.map string).getD null

/-- The member with a name; the last one if the name is repeated. -/
def get? (name : String) : Json → Option Json
  | object ms => (ms.reverse.find? (·.1 == name)).map Prod.snd
  | _ => none

/-- The text of a string. -/
def asString? : Json → Option String
  | string s => some s
  | _ => none

/-- The items of an array. -/
def asArray? : Json → Option (List Json)
  | array items => some items
  | _ => none

end Json

end Deployment
