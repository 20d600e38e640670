import Deployment.Text.Natural

/-!
# RequestId — identifiers of requests

An identifier has 128 bits. It is written as 32 hexadecimal digits in groups of 8, 4, 4, 4 and 12;
a reader takes the groups also in braces or after `urn:uuid:`, and the digits also without hyphens.
-/

namespace Deployment

/-- An identifier of a request. -/
structure RequestId where
  bits : BitVec 128
  deriving DecidableEq, Inhabited

namespace RequestId

/-- The lengths of the groups of digits. -/
def groups : List Nat := [8, 4, 4, 4, 12]

/-- Digits cut into groups of the given lengths. -/
def cutGroups : List Nat → List Char → List (List Char)
  | [], _ => []
  | n :: ns, cs => cs.take n :: cutGroups ns (cs.drop n)

/-- The 32 digits of an identifier. -/
def hexDigits (id : RequestId) : List Char :=
  let digits := Nat.toDigits 16 id.bits.toNat
  List.replicate (32 - digits.length) '0' ++ digits

/-- The text of an identifier. -/
def toText (id : RequestId) : String :=
  String.ofList (['-'].intercalate (cutGroups groups id.hexDigits))

/-- The identifier of 32 digits. -/
def ofDigits? (digits : List Char) : Option RequestId :=
  if digits.length = 32 then (Text.ofDigits? 16 digits).map fun n => ⟨BitVec.ofNat 128 n⟩ else none

/-- The digits of groups with hyphens between them. -/
def joinGroups? : List Nat → List Char → Option (List Char)
  | [], [] => some []
  | [n], cs => if cs.length = n ∧ '-' ∉ cs then some cs else none
  | n :: ns, cs =>
    match cs.drop n with
    | '-' :: rest => (joinGroups? ns rest).map (cs.take n ++ ·)
    | _ => none
  | _, _ => none

/-- The identifier of digits in groups. -/
def ofGroups? (cs : List Char) : Option RequestId := (joinGroups? groups cs).bind ofDigits?

/-- The identifier that a text is. -/
def ofText? (text : String) : Option RequestId :=
  let cs := text.toList
  match cs.head?, cs.length with
  | _, 32 => ofDigits? cs
  | _, 36 => ofGroups? cs
  | some '\x7b', 38 =>
    if cs.getLast? = some '\x7d' then ofGroups? (cs.drop 1 |>.dropLast) else none
  | some 'u', 45 => if "urn:uuid:".toList.isPrefixOf cs then ofGroups? (cs.drop 9) else none
  | _, _ => none

/-- The bits of the version of identifiers that begin with a time. -/
def timedVersion : BitVec 4 := 7

/-- The identifier of a time in milliseconds since 1970 and random bits: the time, the version, 12
random bits, the bits `10` and 62 random bits. -/
def ofTime (millis random : Nat) : RequestId :=
  ⟨BitVec.ofNat 48 millis ++ timedVersion ++ BitVec.ofNat 12 (random / Nat.pow 2 62) ++
    (2 : BitVec 2) ++ BitVec.ofNat 62 random⟩

end RequestId

end Deployment
