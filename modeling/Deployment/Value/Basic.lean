import Deployment.Value.Number
import Deployment.Value.Entries

/-!
# Value/Basic — the values a document is made of

A value is a scalar, a sequence, a mapping with keys of any kind in the order they were written,
or a value under a local tag. `Value.same` says when two values are one key: sequences entry by
entry, mappings without regard to order.
-/

namespace Deployment

/-- A value of a document. The name of a tag is kept without its leading `!`. -/
inductive Value where
  | null
  | bool (b : Bool)
  | number (n : Number)
  | string (s : String)
  | sequence (items : List Value)
  | mapping (entries : List (Value × Value))
  | tagged (tag : String) (content : Value)
  deriving Inhabited

namespace Value

mutual

/-- Whether two values are equal as keys. -/
def same : Value → Value → Bool
  | null, null => true
  | bool a, bool b => a == b
  | number m, number n => m.same n
  | string s, string t => s == t
  | sequence xs, sequence ys => sameItems xs ys
  | mapping es, mapping fs => es.length == fs.length && sameEntries es fs
  | tagged s x, tagged t y => s == t && same x y
  | _, _ => false

/-- Whether two sequences agree entry by entry. -/
def sameItems : List Value → List Value → Bool
  | [], [] => true
  | x :: xs, y :: ys => same x y && sameItems xs ys
  | _, _ => false

/-- Whether every entry of the first mapping stands in the second. -/
def sameEntries : List (Value × Value) → List (Value × Value) → Bool
  | [], _ => true
  | (k, v) :: es, fs => (fs.any fun f => same k f.1 && same v f.2) && sameEntries es fs

end

/-- The text of a string, under any number of tags. -/
def asString? : Value → Option String
  | string s => some s
  | tagged _ v => v.asString?
  | _ => none

/-- The entries of a mapping, under any number of tags. -/
def asMapping? : Value → Option (List (Value × Value))
  | mapping es => some es
  | tagged _ v => v.asMapping?
  | _ => none

/-- The natural number that a number denotes. -/
def asNat? : Value → Option Nat
  | number (.int i) => if 0 ≤ i then some i.toNat else none
  | tagged _ v => v.asNat?
  | _ => none

/-- The text of an untagged scalar; that of null is empty. -/
def scalarText? : Value → Option String
  | string s => some s
  | number n => some n.text
  | bool b => some (if b then "true" else "false")
  | null => some ""
  | _ => none

/-- The value under an untagged string key of a mapping. -/
def lookup (key : String) (entries : List (Value × Value)) : Option Value :=
  Entries.find? same (string key) entries

end Value

end Deployment
