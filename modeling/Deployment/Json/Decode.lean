import Deployment.Json.Reading
import Deployment.Json.Writing
import Deployment.Text.Quoted

/-!
# Json/Decode — typed data from JSON values

A decoder takes a JSON value or says what is wrong with it and where; its shape says what it looks
at, so that a text is read no further than that. Where several members of an object are wrong, the
one that stands first in the object is reported, and members that are missing after those.
`Flaw.offset?` finds the place of a flaw in the text that a value was read from.
-/

namespace Deployment.Json

/-- What is wrong with a value. -/
inductive FlawKind where
  | invalidType (found expected : String)
  | invalidValue (found expected : String)
  | missingField (name : String)
  | duplicateField (name : String)
  | unknownVariant (name : String) (expected : List String)
  | invalidLength (found : Nat) (expected : String)
  /-- A value that no variant is written as. -/
  | noVariant
  /-- Items behind the last one that a record has. -/
  | excessItems
  | other (text : String)
  deriving DecidableEq

/-- The place of a flaw at the value that its path leads to. -/
inductive Site where
  | value
  /-- The end of a collection. -/
  | close
  /-- The name of a member. -/
  | name (index : Nat)
  /-- The name of a member that stands a second time. -/
  | repeated (index : Nat)
  deriving DecidableEq

/-- What is wrong, and the way to it from the root, by the numbers of the items and members. -/
structure Flaw where
  path : List Nat := []
  site : Site := .value
  kind : FlawKind
  deriving DecidableEq

/-- A list of names between backquotes. -/
def namesText (names : List String) : String :=
  let quoted := names.map fun n => "\x60" ++ n ++ "\x60"
  match quoted with
  | [] => "there are no variants"
  | [a] => "expected " ++ a
  | [a, b] => "expected " ++ a ++ " or " ++ b
  | _ => "expected one of " ++ ", ".intercalate quoted

/-- The wording of a flaw. -/
def FlawKind.text : FlawKind → String
  | invalidType found expected => "invalid type: " ++ found ++ ", expected " ++ expected
  | invalidValue found expected => "invalid value: " ++ found ++ ", expected " ++ expected
  | missingField name => "missing field \x60" ++ name ++ "\x60"
  | duplicateField name => "duplicate field \x60" ++ name ++ "\x60"
  | unknownVariant name expected =>
    "unknown variant \x60" ++ name ++ "\x60, " ++ namesText expected
  | invalidLength found expected =>
    "invalid length " ++ Text.natText found ++ ", expected " ++ expected
  | noVariant => Cause.expectedValue.text
  | excessItems => Cause.trailingCharacters.text
  | other text => text

/-- A flaw of the value that was decoded. -/
def flaw {α : Type} (kind : FlawKind) : Except Flaw α := throw { kind }

/-- A flaw at the end of a collection that was decoded. -/
def flawAtEnd {α : Type} (kind : FlawKind) : Except Flaw α := throw { kind, site := .close }

/-- The description of a value of an unwanted type. -/
def describe : Json → String
  | null => "null"
  | bool b => "boolean \x60" ++ (if b then "true" else "false") ++ "\x60"
  | number (.int i) => "integer \x60" ++ Text.intText i ++ "\x60"
  | number (.float x) => "floating point \x60" ++ numberText (.float x) ++ "\x60"
  | string s => "string " ++ Text.quoted s
  | array _ => "sequence"
  | object _ => "map"

/-- Refuse a value of another type than the one expected. -/
def mismatch {α : Type} (expected : String) (j : Json) : Except Flaw α :=
  flaw (.invalidType (describe j) expected)

/-- A decoder of typed data: what it looks at in a value, and what it makes of it. -/
structure Decode (α : Type) where
  shape : Shape := .whole
  run : Json → Except Flaw α

instance {α : Type} : CoeFun (Decode α) fun _ => Json → Except Flaw α := ⟨Decode.run⟩

instance : Functor Decode where
  map f d := ⟨d.shape, fun j => f <$> d j⟩

/-- The result for the value at a number inside a collection. -/
def inside {α : Type} (i : Nat) : Except Flaw α → Except Flaw α
  | .error f => .error { f with path := i :: f.path }
  | .ok a => .ok a

namespace Decode

variable {α β : Type}

/-- A decoder with a step that may refuse what was decoded. -/
def refine (d : Decode α) (step : α → Except FlawKind β) : Decode β :=
  ⟨d.shape, fun j => do
    match step (← d j) with
    | .ok b => return b
    | .error kind => flaw kind⟩

/-- A text, described in a refusal. -/
def textFor (expected : String) : Decode String where
  run
    | string s => pure s
    | j => mismatch expected j

/-- A text. -/
def text : Decode String := textFor "a string"

/-- A truth value. -/
def truth : Decode Bool where
  run
    | bool b => pure b
    | j => mismatch "a boolean" j

/-- A natural number below `2 ^ 16`. -/
def port : Decode Nat where
  run
    | j@(number (.int i)) =>
      if 0 ≤ i ∧ i < Nat.pow 2 16 then pure i.toNat else flaw (.invalidValue (describe j) "u16")
    | j => mismatch "u16" j

/-- The items decoded from a number on. -/
def items (d : Decode α) : Nat → List Json → Except Flaw (List α)
  | _, [] => pure []
  | i, j :: js => do
    let a ← inside i (d j)
    return a :: (← items d (i + 1) js)

/-- A list. -/
def list (d : Decode α) : Decode (List α) where
  shape := .list d.shape
  run
    | array js => items d 0 js
    | j => mismatch "a sequence" j

/-- The members decoded from a number on. -/
def members (d : Decode α) : Nat → List (String × Json) → Except Flaw (List (String × α))
  | _, [] => pure []
  | i, (k, j) :: ms => do
    let a ← inside i (d j)
    return (k, a) :: (← members d (i + 1) ms)

/-- The members of an object, repeated names included. -/
def pairs (d : Decode α) : Decode (List (String × α)) where
  shape := .map d.shape
  run
    | object ms => members d 0 ms
    | j => mismatch "a map" j

/-- A value or null. -/
def optional (d : Decode α) : Decode (Option α) where
  shape := d.shape.orNull
  run
    | null => pure none
    | j => some <$> d j

/-- One of a number of names, each with its aliases; it may also be the only member of an object,
with the value null. A lax decoder takes an empty object for that null. -/
def variant (table : List (List String × α)) (lax : Bool) : Decode α where
  shape := .variant false
  run j :=
    let named (s : String) : Option α := (table.find? fun v => v.1.contains s).map Prod.snd
    let unknown (s : String) : FlawKind := .unknownVariant s (table.flatMap Prod.fst)
    match j with
    | string s =>
      match named s with
      | some a => pure a
      | none => flaw (unknown s)
    | object [(s, v)] =>
      match named s with
      | none => throw { kind := unknown s, site := .name 0 }
      | some a =>
        match v with
        | null => pure a
        | object [] => if lax then pure a else inside 0 (mismatch "unit" v)
        | v => inside 0 (mismatch "unit" v)
    | _ => flaw .noVariant

end Decode

/-! ## Records -/

/-- A flaw with a rank: the number of the member that it concerns. -/
abbrev Ranked (α : Type) := Except (Nat × Flaw) α

/-- A part of a record, decoded from members of an object. -/
structure Fields (α : Type) where
  /-- The names of every field, its own name first, and what is read of it, in the order of a record
  that is written as an array. -/
  shapes : List (List String × Shape)
  run : List (String × Json) → Ranked α

namespace Fields

variable {α β : Type}

/-- The names of the fields in their order, without aliases. -/
def names (fields : Fields α) : List String := fields.shapes.filterMap fun s => s.1.head?

/-- The earlier of two flaws. -/
def earlier (e f : Nat × Flaw) : Nat × Flaw := if f.1 < e.1 then f else e

instance : Applicative Fields where
  pure a := ⟨[], fun _ => .ok a⟩
  seq f x :=
    ⟨f.shapes ++ (x ()).shapes, fun ms =>
      match f.run ms, (x ()).run ms with
      | .ok g, .ok a => .ok (g a)
      | .error e, .ok _ => .error e
      | .ok _, .error e => .error e
      | .error e, .error e' => .error (earlier e e')⟩

/-- The numbers and values of the members with one of the names. -/
def occurrences (names : List String) : Nat → List (String × Json) → List (Nat × Json)
  | _, [] => []
  | i, (k, j) :: ms =>
    if names.contains k then (i, j) :: occurrences names (i + 1) ms
    else occurrences names (i + 1) ms

/-- A field with a name and its aliases, which may stand only once. -/
def field (name : String) (aliases : List String) (missing : Except FlawKind α) (d : Decode α) :
    Fields α :=
  ⟨[(name :: aliases, d.shape)], fun ms =>
    match occurrences (name :: aliases) 0 ms with
    | [] => missing.mapError fun kind => (ms.length, { kind, site := .close })
    | (i, j) :: more =>
      match inside i (d j), more with
      | .error f, _ => .error (i, f)
      | .ok a, [] => .ok a
      | .ok _, (k, _) :: _ => .error (k, { kind := .duplicateField name, site := .repeated k })⟩

/-- A field that has to stand, under its name or an alias. -/
def requiredAs (name : String) (aliases : List String) (d : Decode α) : Fields α :=
  field name aliases (.error (.missingField name)) d

/-- A field that has to stand. -/
def required (name : String) (d : Decode α) : Fields α := requiredAs name [] d

/-- A field with a value of its own where it is missing. -/
def defaulted (name : String) (a : α) (d : Decode α) : Fields α := field name [] (.ok a) d

/-- A field that may be missing or null. -/
def optional (name : String) (d : Decode α) : Fields (Option α) :=
  defaulted name none (Decode.optional d)

end Fields

/-- A record: an object with its fields, or an array with the fields in their order. An array is
too short where it ends before a field that has to stand. -/
def Decode.record {α : Type} (name : String) (fields : Fields α) : Decode α where
  shape := .record fields.shapes
  run
    | object ms => (fields.run ms).mapError Prod.snd
    | array js =>
      let names := fields.names
      let expected := "struct " ++ name ++ " with " ++ Text.natText names.length ++ " elements"
      match fields.run (names.zip js) with
      | .ok a => if names.length < js.length then flawAtEnd .excessItems else .ok a
      | .error (_, f) =>
        match f.path, f.kind with
        | [], .missingField field => flawAtEnd (.invalidLength (names.idxOf field) expected)
        | _, _ => .error f
    | j => mismatch ("struct " ++ name) j

/-- The members other than the one that tells the variant. -/
def withoutMember (name : String) (ms : List (String × Json)) : List (String × Json) :=
  ms.filter fun m => m.1 != name

/-- One of several records, told apart by the text of a member. An array tells it by its first
item. -/
def Decode.tagged {α : Type} (tag : String) (variants : List (String × Fields α)) : Decode α :=
  let decode (name : String) (content : Json) : Except Flaw α :=
    match variants.lookup name with
    | some fields => Decode.record name fields content
    | none => flaw (.unknownVariant name (variants.map Prod.fst))
  { run
      | object ms =>
        match Fields.occurrences [tag] 0 ms with
        | [] => flawAtEnd (.missingField tag)
        | [(_, .string name)] => decode name (object (withoutMember tag ms))
        | [(i, j)] => inside i (mismatch "variant identifier" j)
        | _ :: (i, _) :: _ => throw { kind := .duplicateField tag, site := .repeated i }
      | array (.string name :: js) => decode name (array js)
      | j => mismatch "internally tagged enum" j }

/-! ## Places of flaws -/

/-- The place that a path leads to. -/
def Place.child? (p : Place) (i : Nat) : Option Place :=
  match p with
  | .array _ ps _ => ps[i]?
  | .object _ ps _ => (ps[i]?).map Prod.snd
  | _ => none

/-- The cursor at an offset of a text. -/
def Cursor.atOffset (offset : Nat) : Nat → List Char → Cursor
  | seen, c :: cs =>
    if offset ≤ seen then ⟨c :: cs, seen⟩ else atOffset offset (seen + c.utf8Size) cs
  | seen, [] => ⟨[], seen⟩

/-- The offset behind the name of a member that stands a second time. An object that ends there is
read to its end. -/
def behindName (text : String) (stop : Nat) : Nat :=
  let c := (Cursor.atOffset stop 0 text.toList).skipBlank
  if c.peek == some '\x7d' then c.offset + 1 else c.offset

/-- The offset of a flaw, if it is one of the text and not of what is missing at its end. -/
def Flaw.offset? (text : String) (f : Flaw) (root : Place) : Option Nat :=
  (f.path.foldlM Place.child? root).bind fun p =>
    match f.site, p with
    | .value, .scalar _ stop => some stop
    | .value, .array start _ _ => some start
    | .value, .object start _ _ => some start
    | .close, .array _ _ stop => stop
    | .close, .object _ _ stop => stop
    | .name i, .object _ ps _ => (ps[i]?).map Prod.fst
    | .repeated i, .object _ ps _ => (ps[i]?).map fun m => behindName text m.1
    | _, _ => none

/-- Decode a text, or say what is wrong with it first. -/
def decodeText {α : Type} (d : Decode α) (text : String) : Except String α :=
  let doc := Document.ofText d.shape text
  let malformed (f : Fault) : String := f.cause.text ++ positionText text f.offset
  match d doc.value, doc.fault? with
  | .ok a, none => .ok a
  | .ok _, some fault => .error (malformed fault)
  | .error f, fault? =>
    match f.offset? text doc.place, fault? with
    | some offset, _ => .error (f.kind.text ++ positionText text offset)
    | none, some fault => .error (malformed fault)
    | none, none => .error f.kind.text

end Deployment.Json
