import Deployment.Json.Quoted

/-!
# Json/Reading — the value of JSON text

Reading gives the value as far as the text goes, with the fault that ended it: a decoder may find
an earlier fault in the part that was read. What a decoder will not look at is checked for its
form alone, which a shape tells the reader. Nesting is limited to 127 levels.
-/

namespace Deployment.Json

/-- What a decoder looks at in a value. -/
inductive Shape where
  | whole
  /-- A value that is checked for its form alone. -/
  | skipped
  /-- A name, or an object with a name and a value; null may stand for it if it is `optional`. -/
  | variant (optional : Bool)
  | list (item : Shape)
  /-- An object whose members all have one shape. -/
  | map (member : Shape)
  /-- An object with fields, each given by its names, among members that are skipped; or an array
  with the fields in their order. -/
  | record (fields : List (List String × Shape))

namespace Shape

/-- The shape of the item with a number. -/
def item (i : Nat) : Shape → Shape
  | list s => s
  | record fields => ((fields[i]?).map Prod.snd).getD skipped
  | skipped => skipped
  | _ => whole

/-- The shape of the member with a name. -/
def member (name : String) : Shape → Shape
  | map s => s
  | record fields => ((fields.find? (·.1.contains name)).map Prod.snd).getD skipped
  | skipped => skipped
  | _ => whole

/-- Whether an array ends after so many items, whatever follows them. -/
def isFull (count : Nat) : Shape → Bool
  | record fields => fields.length ≤ count
  | _ => false

/-- Whether a value is checked for its form alone. -/
def isSkipped : Shape → Bool
  | skipped => true
  | _ => false

/-- The shape of a value in whose place null may stand. -/
def orNull : Shape → Shape
  | variant _ => variant true
  | s => s

end Shape

/-- Where the parts of a value stand in its text, in bytes. A collection without an end was broken
off. -/
inductive Place where
  | scalar (start stop : Nat)
  | array (start : Nat) (items : List Place) (stop : Option Nat)
  /-- Members have the offset behind their names. -/
  | object (start : Nat) (members : List (Nat × Place)) (stop : Option Nat)
  /-- A value that was not read. -/
  | missing
  deriving Inhabited

/-- A value read, with its places, and where to read on if no fault ended it. -/
structure Reading where
  value : Json
  place : Place
  next : Except Fault Cursor

/-- A reading that a fault ended before there was a value. -/
def Reading.broken (f : Fault) : Reading := ⟨.null, .missing, .error f⟩

/-- A reading of a scalar that began at an offset. -/
def Reading.scalar (start : Nat) : Except Fault (Json × Cursor) → Reading
  | .ok (j, c) => ⟨j, .scalar start c.offset, .ok c⟩
  | .error f => .broken f

/-- A word that stands for a value, the cursor being at its first letter. -/
def word (rest : List Char) (j : Json) : Cursor → Except Fault (Json × Cursor) :=
  go rest ∘ Cursor.next
where
  go : List Char → Cursor → Except Fault (Json × Cursor)
    | [], c => return (j, c)
    | w :: ws, c =>
      match c.peek with
      | none => failAt .endInValue c
      | some d => if d = w then go ws c.next else throw ⟨.expectedIdent, c.offset + 1⟩

/-- Where an item of an array begins, or the end of the array. -/
def nextItem (lenient first : Bool) (c : Cursor) : Except Fault (Option Cursor × Cursor) :=
  let c := c.skipBlank
  match c.peek with
  | none => failAhead .endInList c
  | some ']' => return (none, c.next)
  | some d =>
    if first then return (some c, c)
    else if d = ',' then
      let c := c.next.skipBlank
      match c.peek with
      | none => failAhead .endInValue c
      | some ']' => failAhead (if lenient then .expectedValue else .trailingComma) c
      | some _ => return (some c, c)
    else failAhead .expectedListCommaOrEnd c

/-- The end of an array after its last item. -/
def listEnd (c : Cursor) : Except Fault Cursor :=
  let c := c.skipBlank
  match c.peek with
  | none => failAhead .endInList c
  | some ']' => return c.next
  | some d =>
    if d = ',' then
      let c := c.next.skipBlank
      failAhead (if c.peek = some ']' then .trailingComma else .trailingCharacters) c
    else failAhead .trailingCharacters c

/-- Where the name of a member begins, or the end of the object. -/
def nextMember (lenient first : Bool) (c : Cursor) : Except Fault (Option Cursor × Cursor) :=
  let c := c.skipBlank
  match c.peek with
  | none => failAhead .endInObject c
  | some '\x7d' => return (none, c.next)
  | some d =>
    if first then
      if d = '"' then return (some c.next, c) else failAhead .keyNotString c
    else if d = ',' then
      let c := c.next.skipBlank
      match c.peek with
      | none => failAhead (if lenient then .endInObject else .endInValue) c
      | some '"' => return (some c.next, c)
      | some '\x7d' => failAhead (if lenient then .keyNotString else .trailingComma) c
      | some _ => failAhead .keyNotString c
    else failAhead .expectedObjectCommaOrEnd c

/-- The colon behind the name of a member. -/
def colon (c : Cursor) : Except Fault Cursor :=
  let c := c.skipBlank
  match c.peek with
  | none => failAhead .endInObject c
  | some d => if d = ':' then return c.next else failAhead .expectedColon c

/-- Where the name of a variant begins, the cursor being behind the brace. -/
def variantName (c : Cursor) : Except Fault Cursor :=
  let c := c.skipBlank
  match c.peek with
  | none => failAhead .endInObject c
  | some '"' => return c.next
  | some '\x7d' => failAhead .expectedValue c
  | some _ => failAhead .keyNotString c

/-- The end of an object with a variant. -/
def variantEnd (c : Cursor) : Except Fault Cursor :=
  let c := c.skipBlank
  match c.peek with
  | none => failAt .endInObject c
  | some '\x7d' => return c.next
  | some _ => failAt .expectedValue c

/-- Whether a value of a shape may begin with a character. -/
def admits (shape : Shape) (d : Char) : Bool :=
  match shape with
  | .variant optional => d = '"' || d = '\x7b' || (optional && d = 'n')
  | _ => true

mutual

/-- A value of a shape, inside which collections may nest to a depth less one. -/
def readValue (shape : Shape) (depth : Nat) : Nat → Cursor → Reading
  | 0, c => .broken ⟨.endInValue, c.offset⟩
  | fuel + 1, c =>
    let lenient := shape.isSkipped
    let c := c.skipBlank
    match c.peek with
    | none => .broken ⟨.endInValue, c.ahead⟩
    | some d =>
      if !admits shape d then .broken ⟨.expectedValue, c.ahead⟩
      else if (d = '[' || d = '\x7b') && depth ≤ 1 && !lenient then .broken ⟨.tooDeep, c.ahead⟩
      else if d = '[' then readItems shape (depth - 1) c.offset fuel 0 [] [] c.next
      else if d = '\x7b' then
        match shape with
        | .variant _ => readVariant (depth - 1) c.offset fuel c.next
        | _ => readMembers shape (depth - 1) c.offset fuel [] [] c.next
      else .scalar c.offset <|
        if d = 'n' then word "ull".toList .null c
        else if d = 't' then word "rue".toList (.bool true) c
        else if d = 'f' then word "alse".toList (.bool false) c
        else if d = '"' then (quotedString lenient c.next).map fun (s, c) => (.string s, c)
        else if d = '-' then (readNumber lenient true c.next).map fun (n, c) => (.number n, c)
        else if d.isDigit then (readNumber lenient false c).map fun (n, c) => (.number n, c)
        else failAhead .expectedValue c
termination_by structural fuel => fuel

/-- The items of an array of a shape that began at an offset, after a number of items read, which
are given backwards. -/
def readItems (shape : Shape) (depth start : Nat) :
    Nat → Nat → List Json → List Place → Cursor → Reading
  | 0, _, js, ps, c => ⟨.array js.reverse, .array start ps.reverse none, failAt .endInList c⟩
  | fuel + 1, count, js, ps, c =>
    let next := if shape.isFull count then (listEnd c).map fun c => (none, c)
      else nextItem shape.isSkipped js.isEmpty c
    match next with
    | .error f => ⟨.array js.reverse, .array start ps.reverse none, .error f⟩
    | .ok (none, c) => ⟨.array js.reverse, .array start ps.reverse (some c.offset), .ok c⟩
    | .ok (some c, _) =>
      let r := readValue (shape.item count) depth fuel c
      let js := r.value :: js
      let ps := r.place :: ps
      match r.next with
      | .error f => ⟨.array js.reverse, .array start ps.reverse none, .error f⟩
      | .ok c => readItems shape depth start fuel (count + 1) js ps c
termination_by structural fuel => fuel

/-- The members of an object that began at an offset, after those read, which are given
backwards. -/
def readMembers (shape : Shape) (depth start : Nat) :
    Nat → List (String × Json) → List (Nat × Place) → Cursor → Reading
  | 0, ms, ps, c => ⟨.object ms.reverse, .object start ps.reverse none, failAt .endInObject c⟩
  | fuel + 1, ms, ps, c =>
    let stopped (ms : List (String × Json)) (ps : List (Nat × Place)) (f : Fault) : Reading :=
      ⟨.object ms.reverse, .object start ps.reverse none, .error f⟩
    match nextMember shape.isSkipped ms.isEmpty c with
    | .error f => stopped ms ps f
    | .ok (none, c) => ⟨.object ms.reverse, .object start ps.reverse (some c.offset), .ok c⟩
    | .ok (some c, _) =>
      match quotedString shape.isSkipped c with
      | .error f => stopped ms ps f
      | .ok (name, named) =>
        match colon named with
        | .error f => stopped ((name, .null) :: ms) ((named.offset, .missing) :: ps) f
        | .ok c =>
          let r := readValue (shape.member name) depth fuel c
          let ms := (name, r.value) :: ms
          let ps := (named.offset, r.place) :: ps
          match r.next with
          | .error f => stopped ms ps f
          | .ok c => readMembers shape depth start fuel ms ps c
termination_by structural fuel => fuel

/-- The name and the value in an object with a variant that began at an offset. -/
def readVariant (depth start : Nat) : Nat → Cursor → Reading
  | 0, c => .broken ⟨.endInObject, c.offset⟩
  | fuel + 1, c =>
    let stopped (ms : List (String × Json)) (ps : List (Nat × Place)) (f : Fault) : Reading :=
      ⟨.object ms, .object start ps none, .error f⟩
    match variantName c >>= quotedString false with
    | .error f => .broken f
    | .ok (name, named) =>
      match colon named with
      | .error f => stopped [(name, .null)] [(named.offset, .missing)] f
      | .ok c =>
        let r := readValue .whole depth fuel c
        let ms := [(name, r.value)]
        let ps := [(named.offset, r.place)]
        match r.next >>= variantEnd with
        | .error f => stopped ms ps f
        | .ok c => ⟨.object ms, .object start ps (some c.offset), .ok c⟩
termination_by structural fuel => fuel

end

/-- The value of a text, with its places, and the fault that ended it. -/
structure Document where
  value : Json
  place : Place
  fault? : Option Fault

/-- Read a text that a decoder will look at through a shape. -/
def Document.ofText (shape : Shape) (text : String) : Document :=
  let cs := text.toList
  let r := readValue shape 128 (2 * cs.length + 2) ⟨cs, 0⟩
  let fault? := match r.next with
    | .error f => some f
    | .ok c =>
      let c := c.skipBlank
      if c.rest.isEmpty then none else some ⟨.trailingCharacters, c.ahead⟩
  ⟨r.value, r.place, fault?⟩

/-- The value of a text that is one JSON value. -/
def read? (text : String) : Option Json :=
  let d := Document.ofText .whole text
  if d.fault?.isSome then none else some d.value

end Deployment.Json
