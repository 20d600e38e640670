import Deployment.Json.Numeral

/-!
# Json/Quoted — strings of JSON text

A character beyond the basic plane is escaped as a pair of surrogates. A lenient reader takes any
four hexadecimal digits for an escape.
-/

namespace Deployment.Json

/-- The number that four hexadecimal digits denote. -/
def hexEscape : Part Nat := fun c =>
  if 4 ≤ (c.rest.take 4).foldl (fun n d => n + d.utf8Size) 0 then
    match c.rest.take 4 with
    | [a, b, d, e] =>
      match Text.ofDigits? 16 [a, b, d, e] with
      | some n => return (n, ⟨c.rest.drop 4, c.offset + 4⟩)
      | none => throw ⟨.invalidEscape, c.offset + 4⟩
    | _ => throw ⟨.invalidEscape, c.offset + 4⟩
  else throw ⟨.endInString, c.offset + (c.rest.foldl (fun n d => n + d.utf8Size) 0)⟩

/-- A character that has to come next inside an escape. -/
def escapeSign (sign : Char) (c : Cursor) : Except Fault Cursor :=
  match c.peek with
  | none => failAt .endInString c
  | some d => if d = sign then return c.next else throw ⟨.endOfHexEscape, c.offset + 1⟩

/-- The character that hexadecimal digits denote, together with a second escape if the first is
half a pair. -/
def hexCharacter : Part Char := fun c => do
  let (n, c) ← hexEscape c
  if 0xDC00 ≤ n && n ≤ 0xDFFF then failAt .loneSurrogate c
  else if n < 0xD800 || 0xDBFF < n then return (Char.ofNat n, c)
  else
    let c ← escapeSign '\\' c
    let c ← escapeSign 'u' c
    let (m, c) ← hexEscape c
    if m < 0xDC00 || 0xDFFF < m then failAt .loneSurrogate c
    else return (Char.ofNat ((n - 0xD800) * 0x400 + (m - 0xDC00) + 0x10000), c)

/-- The character that a letter after a backslash denotes. -/
def escapedChar? (c : Char) : Option Char :=
  match c with
  | '"' => some '"'
  | '\\' => some '\\'
  | '/' => some '/'
  | 'b' => some '\x08'
  | 'f' => some '\x0c'
  | 'n' => some '\n'
  | 'r' => some '\r'
  | 't' => some '\t'
  | _ => none

/-- An escape, the cursor being behind its backslash. -/
def escapeSequence (lenient : Bool) : Part Char := fun c =>
  match c.peek with
  | none => failAt .endInString c
  | some 'u' =>
    if lenient then do
      let (_, c) ← hexEscape c.next
      return (' ', c)
    else hexCharacter c.next
  | some d =>
    match escapedChar? d with
    | some e => return (e, c.next)
    | none => throw ⟨.invalidEscape, c.offset + 1⟩

/-- The characters of a string up to its closing quote, after those in `done`, which are given
backwards. There are no more of them than the text in front has. -/
def quotedRest (lenient : Bool) : List Char → List Char → Part String
  | [], _, c => failAt .endInString c
  | _ :: fuel, done, c =>
    match c.peek with
    | none => failAt .endInString c
    | some '"' => return (String.ofList done.reverse, c.next)
    | some '\\' => do
      let (d, c) ← escapeSequence lenient c.next
      quotedRest lenient fuel (d :: done) c
    | some d =>
      if d.toNat < 0x20 then
        throw ⟨.controlCharacter, if lenient then c.offset else c.offset + 1⟩
      else quotedRest lenient fuel (d :: done) c.next

/-- A string, the cursor being behind its opening quote. -/
def quotedString (lenient : Bool) : Part String := fun c =>
  quotedRest lenient c.rest [] c

end Deployment.Json
