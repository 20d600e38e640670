import Deployment.Text.Blank
import Deployment.Yaml.Outline
import Deployment.Yaml.Style

/-!
# Yaml/Writing — the text of a value

Mappings and sequences are written as blocks with two spaces for a level; a sequence is not
indented inside a mapping, and an empty collection is written with brackets. A key that is long,
has several lines or is itself a collection stands after a question mark.
-/

namespace Deployment.Yaml

/-- A text in the making. -/
structure Sheet where
  text : String := ""
  column : Nat := 0
  /-- Whether the text ends with white space, so that a word may follow. -/
  blank : Bool := true
  /-- Whether the line holds nothing but indentation and indicators of block collections. -/
  indenting : Bool := true

/-- A part of a text. -/
abbrev Write := StateM Sheet Unit

namespace Write

/-- Write characters that break no line. -/
def chars (cs : List Char) : Write := modify fun s =>
  { s with text := s.text ++ String.ofList cs, column := s.column + cs.length }

/-- Break the line. -/
def newline (c : Char) : Write := modify fun s => { s with text := s.text.push c, column := 0 }

/-- Note whether the text ends with white space, and whether the line is indentation so far. -/
def ending (blank indenting : Bool) : Write := modify fun s => { s with blank, indenting }

/-- A space, unless white space stands there already. -/
def gap : Write := do
  unless (← get).blank do chars [' ']

/-- Go to a column of a fresh line. A line that holds only indicators goes on instead. -/
def indent (column : Nat) : Write := do
  let s ← get
  if !s.indenting || column < s.column || (s.column == column && !s.blank) then newline '\n'
  chars (List.replicate (column - (← get).column) ' ')
  ending true true

/-- Write an indicator. One of a block collection goes on with the indentation. -/
def indicator (text : String) (spaced block : Bool) : Write := do
  if spaced then gap
  chars text.toList
  ending false ((← get).indenting && block)

/-! ## Tags -/

/-- Whether a character stands in a tag as it is. -/
def isTagText (c : Char) : Bool :=
  isNameChar c || ";/?:@&=+$,.~*'()[]".toList.contains c

/-- Two digits in base sixteen, in upper case. -/
def hexPair (n : Nat) : List Char :=
  [Nat.digitChar (n / 16), Nat.digitChar (n % 16)].map Char.toUpper

/-- The text of a tag, other characters as octets. -/
def tagText (name : String) : List Char :=
  name.toList.flatMap fun c =>
    if isTagText c then [c]
    else c.toString.toUTF8.toList.flatMap fun b => '%' :: hexPair b.toNat

/-- A tag without the sign that begins it, which a name may bring along. -/
def tagBody (name : String) : String :=
  match name.toList with
  | '!' :: rest => String.ofList rest
  | _ => name

/-- Write a tag. The sign alone is written in angle brackets. -/
def tag (name? : Option String) : Write := do
  match name? with
  | none => pure ()
  | some name =>
    gap
    let body := tagBody name
    chars (if body.isEmpty then "!<%21>".toList else '!' :: tagText body)
    ending false false

/-! ## Scalars -/

/-- A scalar between single quotes. -/
def singleQuoted (column : Nat) (cs : List Char) : Write := do
  indicator "'" true false
  let rec go : Bool → List Char → Write
    | broken, [] => if broken then indent column else pure ()
    | broken, c :: cs => do
      if isBreak c then
        newline c
        modify fun s => { s with indenting := true }
        go true cs
      else if c == ' ' then
        chars [c]
        go broken cs
      else
        if broken then indent column
        chars (if c == '\'' then ['\'', '\''] else [c])
        modify fun s => { s with indenting := false }
        go false cs
  go false cs
  indicator "'" false false

/-- The letter of an escape between double quotes. -/
def escapeLetter? (c : Char) : Option Char :=
  match c with
  | '\x00' => some '0'
  | '\x07' => some 'a'
  | '\x08' => some 'b'
  | '\t' => some 't'
  | '\n' => some 'n'
  | '\x0b' => some 'v'
  | '\x0c' => some 'f'
  | '\r' => some 'r'
  | '\x1b' => some 'e'
  | '"' => some '"'
  | '\\' => some '\\'
  | '\x85' => some 'N'
  | '\xa0' => some '_'
  | '\u2028' => some 'L'
  | '\u2029' => some 'P'
  | _ => none

/-- A number in base sixteen with a number of digits, in upper case. -/
def hexDigits (width n : Nat) : List Char :=
  let ds := (Nat.toDigits 16 n).map Char.toUpper
  List.replicate (width - ds.length) '0' ++ ds

/-- A character between double quotes. -/
def escaped (c : Char) : List Char :=
  if isWritable c && !isBreak c && c != '"' && c != '\\' then [c]
  else match escapeLetter? c with
    | some letter => ['\\', letter]
    | none =>
      let n := c.toNat
      if n ≤ 0xFF then '\\' :: 'x' :: hexDigits 2 n
      else if n ≤ 0xFFFF then '\\' :: 'u' :: hexDigits 4 n
      else '\\' :: 'U' :: hexDigits 8 n

/-- A scalar between double quotes. -/
def doubleQuoted (cs : List Char) : Write := do
  indicator "\"" true false
  chars (cs.flatMap escaped)
  indicator "\"" false false

/-- The header of a literal block: an indentation digit if the text begins with white space, and
what becomes of the breaks at its end. -/
def literalHeader (cs : List Char) : String :=
  let digit := if cs.head?.any fun c => c == ' ' || isBreak c then "2" else ""
  let chomping := match cs.reverse with
    | last :: rest =>
      if !isBreak last then "-"
      else if rest.head?.all isBreak then "+"
      else ""
    | [] => "-"
  "|" ++ digit ++ chomping

/-- A literal block. -/
def literal (column : Nat) (cs : List Char) : Write := do
  indicator (literalHeader cs) true false
  newline '\n'
  ending true true
  let rec go : Bool → List Char → Write
    | _, [] => pure ()
    | broken, c :: cs => do
      if isBreak c then
        newline c
        modify fun s => { s with indenting := true }
        go true cs
      else
        if broken then indent column
        chars [c]
        modify fun s => { s with indenting := false }
        go false cs
  go true cs

/-- A scalar without quotes. -/
def plain (cs : List Char) : Write := do
  unless cs.isEmpty do gap
  chars cs
  ending false false

/-- A string, its further lines beginning at a column. -/
def string (column : Nat) (s : String) : Write :=
  let cs := s.toList
  match styleOf s with
  | .plain => plain cs
  | .singleQuoted => singleQuoted column cs
  | .doubleQuoted => doubleQuoted cs
  | .literal | .folded => literal column cs

/-! ## Collections -/

/-- The greatest number of bytes in a key that stands without a question mark. -/
def keyLimit : Nat := 128

/-- The bytes of a scalar, if it is one line. -/
def lineLength? : Value → Option Nat
  | .null => some 4
  | .bool b => some (if b then 4 else 5)
  | .number n => some n.text.utf8ByteSize
  | .string s => if (shape s.toList).multiline then none else some s.utf8ByteSize
  | .sequence [] | .mapping [] => some 0
  | .tagged name v => (lineLength? v).map (1 + (tagBody name).utf8ByteSize + ·)
  | _ => none

/-- Whether a key stands without a question mark. -/
def isSimpleKey (k : Value) : Bool := (lineLength? k).any (· ≤ keyLimit)

/-- The column of what is inside a collection at a column; there is none around the root. -/
def inner (column : Option Nat) : Nat := (column.map (· + 2)).getD 0

mutual

/-- A value after its tag. `column` is that of the collection around it, and `inMapping` says
whether that is a mapping. -/
def value (column : Option Nat) (inMapping : Bool) (name? : Option String) : Value → Write
  | .tagged name v => value column inMapping (some name) v
  | .null => do
    tag name?
    plain "null".toList
  | .bool b => do
    tag name?
    plain (if b then "true" else "false").toList
  | .number n => do
    tag name?
    plain n.text.toList
  | .string s => do
    tag name?
    string ((column.map (· + 2)).getD 2) s
  | .sequence [] => do
    tag name?
    indicator "[" true false
    indicator "]" false false
  | .mapping [] => do
    tag name?
    indicator "\x7b" true false
    indicator "\x7d" false false
  | .sequence vs => do
    tag name?
    let level := if inMapping && !(← get).indenting then column.getD 0 else inner column
    items level vs
  | .mapping es => do
    tag name?
    entries (inner column) es

/-- The items of a sequence at a column. -/
def items (column : Nat) : List Value → Write
  | [] => pure ()
  | v :: vs => do
    indent column
    indicator "-" true true
    value (some column) false none v
    items column vs

/-- The entries of a mapping at a column. -/
def entries (column : Nat) : List (Value × Value) → Write
  | [] => pure ()
  | (k, v) :: es => do
    indent column
    if isSimpleKey k then
      value (some column) true none k
      indicator ":" false false
    else
      indicator "?" true true
      value (some column) true none k
      indent column
      indicator ":" true true
    value (some column) true none v
    entries column es

end

end Write

/-- The text of a value. -/
def write (v : Value) : Except Fault String :=
  match strayEnd? [] (outline false v) with
  | some stray => throw (.unwritable stray)
  | none =>
    let (_, sheet) := (do
      Write.value none false none v
      Write.indent 0 : Write).run {}
    return sheet.text

/-- The text of a value without the white space around it; a value that cannot be written has
none. -/
def writeTrimmed (v : Value) : String :=
  match write v with
  | .ok text => Text.trim text
  | .error _ => ""

end Deployment.Yaml
