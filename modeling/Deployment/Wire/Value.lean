import Deployment.Json.Decode
import Deployment.Value.Basic

/-!
# Wire/Value — values of manifests as JSON

A mapping becomes an object, where keys that are numbers or truth values become texts; other keys
have no JSON form. A tagged value becomes an object with one member. Objects are read as mappings,
without a key twice, so that values without tags and with texts for keys keep their form.
-/

namespace Deployment

/-- Why a key has no JSON form. -/
inductive KeyFault where
  | notText
  | notFinite
  deriving DecidableEq

/-- The wording of a fault. -/
def KeyFault.message : KeyFault → String
  | notText => "key must be a string"
  | notFinite => "float key must be finite (got NaN or +/-inf)"

namespace Value

/-- The name of the member for a key. -/
def memberName : Value → Except KeyFault String
  | string s => return s
  | bool b => return if b then "true" else "false"
  | number (.int i) => return Text.intText i
  | number (.float x) =>
    if x.isFinite then return Json.numberText (.float x) else throw .notFinite
  | _ => throw .notText

mutual

/-- The JSON form of a value. -/
def toJson : Value → Except KeyFault Json
  | null => return .null
  | bool b => return .bool b
  | number n => return .number n
  | string s => return .string s
  | sequence items => return .array (← itemsToJson items)
  | mapping entries => return .object (← entriesToJson entries)
  | tagged tag v => return .object [("!" ++ tag, ← toJson v)]

/-- The JSON forms of items. -/
def itemsToJson : List Value → Except KeyFault (List Json)
  | [] => return []
  | v :: vs => do
    let j ← toJson v
    return j :: (← itemsToJson vs)

/-- The members for entries. -/
def entriesToJson : List (Value × Value) → Except KeyFault (List (String × Json))
  | [] => return []
  | (k, v) :: es => do
    let name ← memberName k
    let j ← toJson v
    return (name, j) :: (← entriesToJson es)

end

/-- The flaw of the member with a number whose name stands a second time. -/
def repeatedMember (i : Nat) (name : String) : Json.Flaw :=
  { site := .repeated i, kind := .other ("duplicate entry with key " ++ Text.quoted name) }

mutual

/-- The value that a JSON value gives. -/
def readJson : Json → Except Json.Flaw Value
  | .null => return null
  | .bool b => return bool b
  | .number n => return number n
  | .string s => return string s
  | .array js => sequence <$> readItems 0 js
  | .object ms => mapping <$> readMembers 0 [] ms

/-- The values of items from a number on. -/
def readItems : Nat → List Json → Except Json.Flaw (List Value)
  | _, [] => return []
  | i, j :: js => do
    let v ← Json.inside i (readJson j)
    return v :: (← readItems (i + 1) js)

/-- The entries for members from a number on, after members with the given names. -/
def readMembers : Nat → List String → List (String × Json) →
    Except Json.Flaw (List (Value × Value))
  | _, _, [] => return []
  | i, earlier, (name, j) :: ms => do
    if earlier.contains name then throw (repeatedMember i name)
    let v ← Json.inside i (readJson j)
    return (string name, v) :: (← readMembers (i + 1) (name :: earlier) ms)

end

/-- A value. -/
def ofJson : Json.Decode Value where
  run := readJson

/-- The entries of an object. -/
def entriesOfJson : Json.Decode (List (Value × Value)) where
  run
    | .object ms => readMembers 0 [] ms
    | j => Json.mismatch "a YAML mapping" j

end Value

end Deployment
