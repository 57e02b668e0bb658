import Groupwise.Decimal.Numeral
import Groupwise.Text.CodePoint
import Groupwise.Text.Scan
import Groupwise.Time.Calendar

/-!
# Points in time

A point in time together with the distance of its clock from the universal one. It is written and
read as a date, a time of day and that distance.
-/
namespace Groupwise

/-- A point in time. A leap second is kept as the second before it with a billion nanoseconds or
more. -/
structure Timestamp where
  /-- Seconds since the start of 1970 by the universal clock. -/
  seconds : Int
  nanos : Nat := 0
  /-- Seconds by which the local clock is ahead. -/
  offset : Int
  deriving Repr, DecidableEq, Inhabited

namespace Timestamp

open Time (Date)

/-- Two timestamps are the same when the points in time are, whatever the clock. -/
instance : BEq Timestamp where
  beq a b := a.seconds == b.seconds && a.nanos == b.nanos

def notAfter (a b : Timestamp) : Bool :=
  a.seconds < b.seconds || (a.seconds == b.seconds && a.nanos ≤ b.nanos)

def withOffset (t : Timestamp) (offset : Int) : Timestamp := { t with offset }

def localSeconds (t : Timestamp) : Int := t.seconds + t.offset

def localDate (t : Timestamp) : Date := Date.ofDays (t.localSeconds / 86400)

def hasLocalDate (t : Timestamp) : Bool := Date.isStorable t.localDate.year

def storable? (t : Timestamp) : Option Timestamp :=
  if Date.isStorable (Date.ofDays (t.seconds / 86400)).year then some t else none

def ofLocal? (date : Date) (secondOfDay nanos : Nat) (offset : Int) : Option Timestamp :=
  storable? { seconds := date.toDays * 86400 + secondOfDay - offset, nanos, offset }

def startOfDay? (t : Timestamp) : Option Timestamp := ofLocal? t.localDate 0 0 t.offset

/-- The point in time from which seconds are counted: a leap second is the start of the next second
when they are counted back, and the second before it when they are counted on. -/
def countingFrom (t : Timestamp) (seconds : Int) : Timestamp :=
  if t.nanos < 1000000000 || seconds == 0 then t
  else { t with
    seconds := if 0 < seconds then t.seconds + 1 else t.seconds
    nanos := t.nanos - 1000000000 }

def before? (t : Timestamp) (seconds : Int) : Option Timestamp :=
  let start := t.countingFrom seconds
  storable? { start with seconds := start.seconds - seconds }

def beforeMonths? (t : Timestamp) (months : Nat) : Option Timestamp := do
  let date ← t.localDate.beforeMonths? months
  ofLocal? date (t.localSeconds % 86400).toNat t.nanos t.offset

/-! ## Writing -/

def padded (width n : Nat) : String :=
  let digits := toString n
  String.ofList (List.replicate (width - digits.length) '0') ++ digits

/-- Years beyond four digits have a sign. -/
def writeYear (year : Int) : String :=
  if 0 ≤ year && year ≤ 9999 then padded 4 year.toNat
  else (if year < 0 then "-" else "+") ++ padded 4 year.natAbs

/-- A fraction of a second in groups of three digits, none for a whole second. -/
def writeFraction (nanos : Nat) : String :=
  if nanos == 0 then ""
  else if nanos % 1000000 == 0 then "." ++ padded 3 (nanos / 1000000)
  else if nanos % 1000 == 0 then "." ++ padded 6 (nanos / 1000)
  else "." ++ padded 9 nanos

def writeOffset (offset : Int) : String :=
  let minutes := offset.natAbs / 60
  (if offset < 0 then "-" else "+") ++ padded 2 (minutes / 60) ++ ":" ++ padded 2 (minutes % 60)

def write (t : Timestamp) : String :=
  let date := t.localDate
  let second := (t.localSeconds % 86400).toNat
  let leap := t.nanos / 1000000000
  writeYear date.year ++ "-" ++ padded 2 date.month ++ "-" ++ padded 2 date.day ++ "T" ++
    padded 2 (second / 3600) ++ ":" ++ padded 2 (second / 60 % 60) ++ ":" ++
    padded 2 (second % 60 + leap) ++ writeFraction (t.nanos % 1000000000) ++ writeOffset t.offset

/-! ## Reading -/

def digits (most : Nat) : Scanner Nat := fun cs =>
  let found := (cs.takeWhile Char.isDigit).take most
  if found.isEmpty then none else some (Decimal.digitsValue found, cs.drop found.length)

def exactly (count : Nat) : Scanner Nat := fun cs =>
  let found := (cs.takeWhile Char.isDigit).take count
  if found.length == count then some (Decimal.digitsValue found, cs.drop count) else none

/-- A fraction of a second; digits after the ninth are dropped. -/
def fraction : Scanner Nat := fun cs => do
  let all := cs.takeWhile Char.isDigit
  let kept := all.take 9
  if kept.isEmpty then none
  else some (Decimal.digitsValue kept * Nat.pow 10 (9 - kept.length), cs.dropWhile Char.isDigit)

def optionalFraction : List Char → Option (Nat × List Char)
  | '.' :: rest => fraction rest
  | cs => some (0, cs)

def clock : Scanner Int
  | [] => none
  | c :: rest =>
    if c = 'Z' || c = 'z' then some (0, rest)
    else do
      let negative ← if c = '+' then some false else if c = '-' || c = '\u2212' then some true else none
      let (hours, rest) ← exactly 2 rest
      let ((), rest) ← Scanner.char ':' rest
      let (minutes, rest) ← exactly 2 rest
      if hours ≤ 23 && minutes ≤ 59 then
        let seconds : Int := hours * 3600 + minutes * 60
        some (if negative then -seconds else seconds, rest)
      else none

/-- The second of a day, and a billion nanoseconds for the sixtieth second of a minute. -/
def secondOfDay? (hour minute second : Nat) : Option (Nat × Nat) :=
  if hour ≤ 23 && minute ≤ 59 && second ≤ 60 then
    some (hour * 3600 + minute * 60 + min second 59, if second == 60 then 1000000000 else 0)
  else none

/-- A complete timestamp with its clock. -/
def read? (text : String) : Option Timestamp := do
  let (year, cs) ← exactly 4 text.toList
  let ((), cs) ← Scanner.char '-' cs
  let (month, cs) ← exactly 2 cs
  let ((), cs) ← Scanner.char '-' cs
  let (day, cs) ← exactly 2 cs
  let ((), cs) ← Scanner.orElse (Scanner.char 'T')
    (Scanner.orElse (Scanner.char 't') (Scanner.char ' ')) cs
  let (hour, cs) ← exactly 2 cs
  let ((), cs) ← Scanner.char ':' cs
  let (minute, cs) ← exactly 2 cs
  let ((), cs) ← Scanner.char ':' cs
  let (second, cs) ← exactly 2 cs
  let (nanos, cs) ← optionalFraction cs
  let (offset, cs) ← clock cs
  if !cs.isEmpty then none
  let date ← Date.of? year month day
  let (second, leap) ← secondOfDay? hour minute second
  ofLocal? date second (nanos + leap) offset

def spacedDigits (most : Nat) : Scanner Nat := fun cs =>
  digits most (cs.dropWhile Text.blanks.contains)

/-- A year behind any blanks: four digits at most, or any number of them behind a sign. -/
def spacedYear : Scanner Int := fun cs =>
  match cs.dropWhile Text.blanks.contains with
  | '-' :: rest => (digits rest.length rest).map fun (n, rest) => (-(n : Int), rest)
  | '+' :: rest => (digits rest.length rest).map fun (n, rest) => ((n : Int), rest)
  | rest => (digits 4 rest).map fun (n, rest) => ((n : Int), rest)

def looseDate : Scanner Date := fun cs => do
  let (year, cs) ← spacedYear cs
  let ((), cs) ← Scanner.char '-' cs
  let (month, cs) ← spacedDigits 2 cs
  let ((), cs) ← Scanner.char '-' cs
  let (day, cs) ← spacedDigits 2 cs
  some (← Date.of? year month day, cs)

def looseMinute : Scanner (Nat × Nat) := fun cs => do
  let (hour, cs) ← spacedDigits 2 cs
  let ((), cs) ← Scanner.char ':' cs
  let (minute, cs) ← spacedDigits 2 cs
  some ((hour, minute), cs)

def looseSecond : Scanner (Nat × Nat) := fun cs => do
  let ((hour, minute), cs) ← looseMinute cs
  let ((), cs) ← Scanner.char ':' cs
  let (second, cs) ← spacedDigits 2 cs
  some (← secondOfDay? hour minute second, cs)

def looseParts? (text : String) : Option (Date × Nat × Nat) := do
  let (date, rest) ← looseDate text.toList
  match rest with
  | [] => some (date, 0, 0)
  | 'T' :: rest =>
    match looseSecond rest with
    | some ((second, nanos), []) => some (date, second, nanos)
    | _ =>
      match looseMinute rest with
      | some ((hour, minute), []) => do
        let (second, nanos) ← secondOfDay? hour minute 0
        some (date, second, nanos)
      | _ => none
  | rest =>
    match looseSecond rest with
    | some ((second, nanos), []) => some (date, second, nanos)
    | _ => none

def readLoosely? (text : String) (offset : Int) : Option Timestamp :=
  match read? text with
  | some t => some t
  | none => do
    let (date, second, nanos) ← looseParts? text
    ofLocal? date second nanos offset

def spacedChar (c : Char) : Scanner Unit := fun cs =>
  Scanner.char c (cs.dropWhile Text.blanks.contains)

/-- Hours and minutes by which a clock is ahead, with blanks or colons between them or nothing. -/
def spacedClock : Scanner Int
  | [] => none
  | c :: rest =>
    if c = 'Z' || c = 'z' then some (0, rest)
    else do
      let negative ← if c = '+' then some false else if c = '-' || c = '\u2212' then some true else none
      let (hours, rest) ← exactly 2 rest
      let (minutes, rest) ← exactly 2 (rest.dropWhile fun c => c = ':' || Text.blanks.contains c)
      let seconds : Int := hours * 3600 + minutes * 60
      if hours ≤ 23 && minutes ≤ 59 then some (if negative then -seconds else seconds, rest)
      else none

/-- A complete timestamp with its clock, in which blanks may stand between the parts, numbers need
no zeros in front, and the clock may be named. -/
def readSpaced? (text : String) : Option Timestamp := do
  let (year, cs) ← spacedYear text.toList
  let ((), cs) ← spacedChar '-' cs
  let (month, cs) ← spacedDigits 2 cs
  let ((), cs) ← spacedChar '-' cs
  let (day, cs) ← spacedDigits 2 cs
  let ((), cs) ← Scanner.orElse (Scanner.char 'T')
    (Scanner.orElse (Scanner.char 't') (Scanner.char ' ')) cs
  let (hour, cs) ← spacedDigits 2 cs
  let ((), cs) ← spacedChar ':' cs
  let (minute, cs) ← spacedDigits 2 cs
  let ((), cs) ← spacedChar ':' cs
  let (second, cs) ← spacedDigits 2 cs
  let (nanos, cs) ← optionalFraction cs
  let (offset, cs) ← Scanner.orElse
    (fun cs => (Scanner.wordIgnoringCase "utc".toList cs).map fun r => ((0 : Int), r.2))
    spacedClock (cs.dropWhile Text.blanks.contains)
  if !(cs.dropWhile Text.blanks.contains).isEmpty then none
  let date ← Date.of? year month day
  let (second, leap) ← secondOfDay? hour minute second
  ofLocal? date second (nanos + leap) offset

end Timestamp

end Groupwise
