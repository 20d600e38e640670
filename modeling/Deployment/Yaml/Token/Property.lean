import Deployment.Yaml.Cursor
import Deployment.Yaml.Token

/-!
# Yaml/Token/Property — directives, anchors and tags
-/

namespace Deployment.Yaml.Scan

/-- The leading name characters. -/
def name : Scan String := do
  let name ← take (·.span isNameChar)
  look 1
  return String.ofList name

/-- Skip a comment up to the end of its line. -/
def comment : Scan Unit := do
  if (← get).peek == some '#' then
    move (·.skipWhile (!isBreak ·))
    look 1

/-- Skip what may follow on the line of a construct: gaps, a comment, the line break. -/
def restOfLine (within : Construct) (start : Mark) : Scan Unit := do
  move (·.skipWhile isGap)
  look 1
  comment
  unless isBreakOrEnd (← get).peek do fail within start .expectedCommentOrBreak
  look 2
  move Cursor.skipLine

/-- An anchor or an alias: the sign and the name after it. -/
def anchor (within : Construct) : Scan (String × Mark) := do
  let start := (← get).mark
  move (·.skip 1)
  let name ← name
  let c ← get
  let ends := isBlankOrEnd c.peek || (c.peek.any "?:,]\x7d%@\x60".toList.contains)
  if name.isEmpty || !ends then fail within start .expectedAlphanumeric
  return (name, start)

/-! ## Tags -/

/-- The value of two hexadecimal digits after a percent sign, if they stand at the cursor. -/
def octet? (c : Cursor) : Option Nat :=
  match c.rest with
  | '%' :: a :: b :: _ => Text.ofDigits? 16 [a, b]
  | _ => none

/-- The octets that the first octet of a character announces, itself included. -/
def octetWidth? (octet : Nat) : Option Nat :=
  if octet < 0x80 then some 1
  else if octet / 32 = 6 then some 2
  else if octet / 16 = 14 then some 3
  else if octet / 8 = 30 then some 4
  else none

/-- The `n` octets that continue a character. -/
def moreOctets (within : Construct) (start : Mark) : Nat → Scan (List Nat)
  | 0 => pure []
  | n + 1 => do
    look 3
    let some octet := octet? (← get) | fail within start .expectedOctet
    if octet / 64 ≠ 2 then fail within start .trailingOctet
    move (·.skip 3)
    return octet :: (← moreOctets within start n)

/-- The octets of one character written with percent signs. -/
def octets (within : Construct) (start : Mark) : Scan (List UInt8) := do
  look 3
  let some first := octet? (← get) | fail within start .expectedOctet
  let some width := octetWidth? first | fail within start .leadingOctet
  move (·.skip 3)
  return (first :: (← moreOctets within start (width - 1))).map UInt8.ofNat

/-- Whether a character may stand in a tag; inside angle brackets three more may. -/
def isTagChar (verbatim : Bool) (c : Char) : Bool :=
  isNameChar c || ";/?:@&=+$.%!~*'()".toList.contains c || (verbatim && ",[]".toList.contains c)

/-- The octets of the text of a tag, after the octets in `head`. -/
def tagOctets (within : Construct) (start : Mark) (verbatim : Bool) (head : List UInt8) :
    Scan (List UInt8) :=
  loop (fun done => do
    look 1
    match (← get).peek with
    | some '%' => return (done ++ (← octets within start), true)
    | some c =>
      if isTagChar verbatim c then
        move (·.skip 1)
        return (done ++ c.toString.toUTF8.toList, true)
      else return (done, false)
    | none => return (done, false)) head

/-- A tag, or a part of one, after `head`, whose first character is a sign and no part of it. -/
def tagText (within : Construct) (start : Mark) (verbatim : Bool) (head : List Char) :
    Scan Tag := do
  let before := (← get).mark.index
  let octets ← tagOctets within start verbatim ((String.ofList (head.drop 1)).toUTF8.toList)
  if head.isEmpty && (← get).mark.index == before then fail within start .expectedTagUri
  return .ofOctets octets

/-- A handle, or the sign and the name that begin a tag without one. -/
def tagHandle (within : Construct) (start : Mark) : Scan (List Char) := do
  look 1
  unless (← get).peek == some '!' do fail within start .expectedBang
  move (·.skip 1)
  let name ← take (·.span isNameChar)
  look 1
  if (← get).peek == some '!' then
    move (·.skip 1)
    return '!' :: name ++ ['!']
  else return '!' :: name

/-- The handle and the suffix of a tag without angle brackets. -/
def shortTag (start : Mark) : Scan Lexeme := do
  let head ← tagHandle .tag start
  if 2 ≤ head.length && head.getLast? == some '!' then
    return .tag (String.ofList head) (← tagText .tagUri start false [])
  else
    let suffix ← tagText .tagUri start false head
    return if suffix.isEmpty then .tag "" (.ofText "!") else .tag "!" suffix

/-- A tag. -/
def tag (inFlow : Bool) : Scan Token := do
  let start := (← get).mark
  look 2
  let lexeme ←
    if (← get).at? 1 == some '<' then do
      move (·.skip 2)
      let suffix ← tagText .tagUri start true []
      unless (← get).peek == some '>' do fail .tag start .expectedTagClose
      move (·.skip 1)
      pure (Lexeme.tag "" suffix)
    else shortTag start
  look 1
  let c ← get
  unless isBlankOrEnd c.peek || (inFlow && c.peek == some ',') do
    fail .tag start .expectedBlankOrBreak
  return ⟨lexeme, start, c.mark⟩

/-! ## Directives -/

/-- A number of at most nine digits in a version. -/
def versionNumber (start : Mark) : Scan Nat := do
  let digits := (← get).rest.takeWhile Char.isDigit
  move (·.skip (min digits.length 9))
  look 1
  if 9 < digits.length then fail .versionDirective start .longVersion
  let some n := Text.ofDigits? 10 digits | fail .versionDirective start .expectedVersion
  return n

/-- The two numbers of a version. -/
def version (start : Mark) : Scan Lexeme := do
  move (·.skipWhile isGap)
  let major ← versionNumber start
  unless (← get).peek == some '.' do fail .versionDirective start .expectedVersionDot
  move (·.skip 1)
  return .version major (← versionNumber start)

/-- The handle that a directive declares and the text that it stands for. -/
def tagDirective (start : Mark) : Scan Lexeme := do
  move (·.skipWhile isGap)
  let handle ← tagHandle .tagDirectiveHandle start
  unless handle == ['!'] || (2 ≤ handle.length && handle.getLast? == some '!') do
    fail .tagDirectiveHandleEnd start .expectedBang
  look 1
  unless (← get).peek.any isGap do fail .tagDirective start .expectedBlank
  move (·.skipWhile isGap)
  let lead ← tagText .tagDirectiveUri start true []
  unless isBlankOrEnd (← get).peek do fail .tagDirective start .expectedBlankOrBreak
  return .tagDirective (String.ofList handle) lead

/-- A directive, up to the end of its line. -/
def directive : Scan Token := do
  let start := (← get).mark
  move (·.skip 1)
  let name ← name
  if name.isEmpty then fail .directive start .expectedDirectiveName
  unless isBlankOrEnd (← get).peek do fail .directive start .nonAlphabetic
  let lexeme ←
    if name = "YAML" then version start
    else if name = "TAG" then tagDirective start
    else fail .directive start .unknownDirective
  let stop := (← get).mark
  restOfLine .directive start
  return ⟨lexeme, start, stop⟩

end Deployment.Yaml.Scan
