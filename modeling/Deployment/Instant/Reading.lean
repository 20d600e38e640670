import Deployment.Instant
import Deployment.Text.Blank
import Deployment.Text.Natural

/-!
# Instant/Reading — instants from texts

A text gives a date, a `T` or a space, a time of day and the distance from universal time, which is
`Z`, `UTC` or hours and minutes with a sign. Blanks may stand before numbers and signs. What does
not fit is refused where it stands; whether the date exists is looked at last.
-/

namespace Deployment.Instant

/-- Why a text is no instant. -/
inductive Fault where
  | outOfRange
  | invalid
  | tooShort
  | tooLong
  /-- A date and time whose instant lies outside the range of instants. -/
  | impossible
  deriving DecidableEq

/-- The wording of a fault. -/
def Fault.message : Fault → String
  | outOfRange => "input is out of range"
  | invalid => "input contains invalid characters"
  | tooShort => "premature end of input"
  | tooLong => "trailing input"
  | impossible => "no possible date and time matching input"

/-- The number that digits of base ten denote. -/
def digitsValue (digits : List Char) : Nat := (Text.ofDigits? 10 digits).getD 0

/-- At least one digit and at most so many. -/
def digits (most : Nat) (cs : List Char) : Except Fault (List Char × List Char) :=
  match cs with
  | [] => throw .tooShort
  | c :: _ =>
    if c.isDigit then
      let taken := (cs.take most).takeWhile Char.isDigit
      return (taken, cs.drop taken.length)
    else throw .invalid

/-- A number of one or two digits in a range, after blanks. -/
def number (least greatest : Nat) (cs : List Char) : Except Fault (Nat × List Char) := do
  let (ds, cs) ← digits 2 (Text.trimStart cs)
  let n := digitsValue ds
  if least ≤ n ∧ n ≤ greatest then return (n, cs) else throw .outOfRange

/-- A year, after blanks: up to four digits, or a sign and digits. -/
def year (cs : List Char) : Except Fault (Int × List Char) := do
  let cs := Text.trimStart cs
  let signed (sign : Int) (cs : List Char) : Except Fault (Int × List Char) := do
    let (ds, cs) ← digits cs.length cs
    let n := sign * digitsValue ds
    if -(Nat.pow 2 31 : Int) ≤ n ∧ n < Nat.pow 2 31 then return (n, cs) else throw .outOfRange
  match cs with
  | '-' :: cs => signed (-1) cs
  | '+' :: cs => signed 1 cs
  | cs => do
    let (ds, cs) ← digits 4 cs
    return (digitsValue ds, cs)

/-- A character, after blanks. -/
def mark (c : Char) (cs : List Char) : Except Fault (List Char) :=
  match Text.trimStart cs with
  | [] => throw .tooShort
  | d :: cs => if d = c then return cs else throw .invalid

/-- The fraction of a second in billionths, if there is one; digits after the ninth are left out. -/
def fraction (cs : List Char) : Except Fault (Nat × List Char) :=
  match cs with
  | '.' :: cs => do
    let (ds, cs) ← digits 9 cs
    return (digitsValue ds * Nat.pow 10 (9 - ds.length), cs.dropWhile Char.isDigit)
  | cs => return (0, cs)

/-- Two digits. -/
def twoDigits (cs : List Char) : Except Fault ((Char × Char) × List Char) :=
  match cs with
  | [] => throw .tooShort
  | [a] => throw (if a.utf8Size < 2 then .tooShort else .invalid)
  | a :: b :: cs => if a.isDigit && b.isDigit then return ((a, b), cs) else throw .invalid

/-- The seconds of hours and minutes that a time of day is ahead of universal time. -/
def distance (cs : List Char) : Except Fault (Int × List Char) := do
  let (hours, cs) ← twoDigits cs
  let cs := cs.dropWhile fun c => c == ':' || Text.isBlank c
  let (minutes, cs) ← twoDigits cs
  if '6' ≤ minutes.1 then throw .outOfRange
  let value (d : Char × Char) : Nat := digitsValue [d.1, d.2]
  return (value hours * 3600 + value minutes * 60, cs)

/-- The seconds that a time of day is ahead of universal time. -/
def offset (cs : List Char) : Except Fault (Int × List Char) :=
  if (cs.take 3).map Char.toUpper = ['U', 'T', 'C'] then return (0, cs.drop 3)
  else match cs with
    | [] => throw .tooShort
    | c :: cs =>
      if c = 'Z' ∨ c = 'z' then return (0, cs)
      else if c = '+' then distance cs
      else if c = '-' ∨ c = '−' then (distance cs).map fun (n, cs) => (-n, cs)
      else throw .invalid

/-- A date. -/
def date (cs : List Char) : Except Fault (Date × List Char) := do
  let (year, cs) ← year cs
  let (month, cs) ← number 1 12 (← mark '-' cs)
  let (day, cs) ← number 1 31 (← mark '-' cs)
  return (⟨year, month, day⟩, cs)

/-- A time of day: its seconds and billionths. -/
def timeOfDay (cs : List Char) : Except Fault ((Nat × Nat) × List Char) := do
  let (hour, cs) ← number 0 23 cs
  let (minute, cs) ← number 0 59 (← mark ':' cs)
  let (second, cs) ← number 0 60 (← mark ':' cs)
  let (nano, cs) ← fraction cs
  let full := hour * 3600 + minute * 60
  return (if second = 60 then (full + 59, nanosPerSecond + nano) else (full + second, nano), cs)

/-- Whether the number of a day lies in the range of dates. -/
def isInRange (day : Int) : Bool := firstDate.number ≤ day && day ≤ lastDate.number

/-- The instant of a date and a time of day that is so many seconds ahead of universal time. -/
def ofLocal (d : Date) (second nano : Nat) (ahead : Int) : Except Fault Instant :=
  let seconds := second - ahead
  let day := d.number + seconds / secondsPerDay
  if d.isValid && isInRange d.number && ahead.natAbs < secondsPerDay then
    if isInRange day then return ⟨day, (seconds % secondsPerDay).toNat, nano⟩
    else throw .impossible
  else throw .outOfRange

/-- The instant that a text gives. -/
def ofText (text : String) : Except Fault Instant := do
  let (d, cs) ← date text.toList
  let cs ← match cs with
    | [] => throw .tooShort
    | c :: cs => if c = 'T' ∨ c = 't' ∨ c = ' ' then pure cs else throw .invalid
  let ((second, nano), cs) ← timeOfDay cs
  let (ahead, cs) ← offset (Text.trimStart cs)
  if cs.all Text.isBlank then ofLocal d second nano ahead else throw .tooLong

end Deployment.Instant
