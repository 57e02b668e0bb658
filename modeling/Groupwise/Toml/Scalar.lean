import Groupwise.Json.Reader
import Groupwise.Text.Scan
import Groupwise.Time.Calendar

/-!
# Scalars of settings files

Strings in four notations, integers in four bases, floating-point numbers, truth values, dates and
times.
-/
namespace Groupwise.Toml

open Scanner (char word orElse)

def isBlank (c : Char) : Bool := c = ' ' || c = '\t'

def skipBlanks (cs : List Char) : List Char := cs.dropWhile isBlank

def newline : Scanner Unit
  | '\n' :: rest => some ((), rest)
  | '\r' :: '\n' :: rest => some ((), rest)
  | _ => none

/-- What may stand in a line: no control characters other than the tabulator. -/
def isLineChar (c : Char) : Bool := c = '\t' || (' ' ≤ c && c ≤ '~') || 0x80 ≤ c.toNat

/-! ## Strings -/

def isBasicChar (c : Char) : Bool := isLineChar c && c ≠ '"' && c ≠ '\\'

def isLiteralChar (c : Char) : Bool := isLineChar c && c ≠ '\''

def charOfDigits? (digits : List Char) : Option Char := do
  let code ← digits.foldlM (fun n c => do pure (n * 16 + (← Json.hexDigit? c))) 0
  if code < 0xD800 || (0xDFFF < code && code ≤ 0x10FFFF) then some (Char.ofNat code) else none

def escape : Scanner Char
  | 'b' :: rest => some ('\x08', rest)
  | 'f' :: rest => some ('\x0c', rest)
  | 'n' :: rest => some ('\n', rest)
  | 'r' :: rest => some ('\r', rest)
  | 't' :: rest => some ('\t', rest)
  | '"' :: rest => some ('"', rest)
  | '\\' :: rest => some ('\\', rest)
  | 'u' :: rest => if rest.length < 4 then none else do
    some (← charOfDigits? (rest.take 4), rest.drop 4)
  | 'U' :: rest => if rest.length < 8 then none else do
    some (← charOfDigits? (rest.take 8), rest.drop 8)
  | _ => none

def basicChars : Nat → Scanner (List Char)
  | 0, _ => none
  | _, [] => none
  | _, '"' :: rest => some ([], rest)
  | fuel + 1, '\\' :: rest => do
    let (c, rest) ← escape rest
    let (more, rest) ← basicChars fuel rest
    some (c :: more, rest)
  | fuel + 1, c :: rest =>
    if isBasicChar c then do
      let (more, rest) ← basicChars fuel rest
      some (c :: more, rest)
    else none

def basicString : Scanner String := fun cs => do
  let ((), rest) ← char '"' cs
  let (found, rest) ← basicChars (rest.length + 1) rest
  some (String.ofList found, rest)

/-- A string in apostrophes on one line, without escapes. -/
def literalString : Scanner String := fun cs => do
  let ((), rest) ← char '\'' cs
  let (found, rest) := Scanner.run isLiteralChar rest
  let ((), rest) ← char '\'' rest
  some (String.ofList found, rest)

/-- Three marks close a text. One or two more in front of them belong to it. -/
def closing (mark : Char) (cs : List Char) : Option (List Char × List Char) :=
  let marks := min 5 (cs.takeWhile (· = mark)).length
  if marks < 3 then none else some (List.replicate (marks - 3) mark, cs.drop marks)

/-- A line break and the blanks and line breaks behind it, if the line ends here. -/
def foldedLine (cs : List Char) : Option (List Char) := do
  let ((), rest) ← newline (skipBlanks cs)
  let skip : Scanner Unit := orElse newline fun
    | c :: rest => if isBlank c then some ((), rest) else none
    | [] => none
  some (Scanner.many skip rest.length rest).2

/-- The characters of a text in quotes up to its end; the fuel is the number of characters. -/
def basicText : Nat → Scanner (List Char)
  | 0, _ => none
  | fuel + 1, cs =>
    match closing '"' cs with
    | some found => some found
    | none =>
      match cs with
      | [] => none
      | '\\' :: rest =>
        match foldedLine rest with
        | some rest => basicText fuel rest
        | none => do
          let (c, rest) ← escape rest
          let (more, rest) ← basicText fuel rest
          some (c :: more, rest)
      | c :: rest =>
        match newline cs with
        | some ((), rest) => do
          let (more, rest) ← basicText fuel rest
          some ('\n' :: more, rest)
        | none =>
          if c = '"' || isBasicChar c then do
            let (more, rest) ← basicText fuel rest
            some (c :: more, rest)
          else none

/-- The characters of a text in apostrophes up to its end; the fuel is the number of characters. -/
def literalText : Nat → Scanner (List Char)
  | 0, _ => none
  | fuel + 1, cs =>
    match closing '\'' cs with
    | some found => some found
    | none =>
      match cs, newline cs with
      | _, some ((), rest) => do
        let (more, rest) ← literalText fuel rest
        some ('\n' :: more, rest)
      | [], none => none
      | c :: rest, none =>
        if isLineChar c then do
          let (more, rest) ← literalText fuel rest
          some (c :: more, rest)
        else none

/-- A line break right behind the opening marks does not count. -/
def skipNewline (cs : List Char) : List Char :=
  match newline cs with
  | some ((), rest) => rest
  | none => cs

def string : Scanner String
  | '"' :: '"' :: '"' :: rest => do
    let rest := skipNewline rest
    let (found, rest) ← basicText (rest.length + 1) rest
    some (String.ofList found, rest)
  | '\'' :: '\'' :: '\'' :: rest => do
    let rest := skipNewline rest
    let (found, rest) ← literalText (rest.length + 1) rest
    some (String.ofList found, rest)
  | cs => orElse basicString literalString cs

/-! ## Numbers -/

/-- The digits that go on a number; an underscore may stand between two of them. -/
def moreDigits (p : Char → Bool) : List Char → List Char × List Char
  | '_' :: c :: rest =>
    if p c then
      let (more, rest) := moreDigits p rest
      (c :: more, rest)
    else ([], '_' :: c :: rest)
  | c :: rest =>
    if p c then
      let (more, rest) := moreDigits p rest
      (c :: more, rest)
    else ([], c :: rest)
  | [] => ([], [])

def digitRun (p : Char → Bool) : Scanner (List Char)
  | c :: rest =>
    if p c then
      let (more, rest) := moreDigits p rest
      some (c :: more, rest)
    else none
  | [] => none

def sign : List Char → Bool × List Char
  | '-' :: rest => (true, rest)
  | '+' :: rest => (false, rest)
  | cs => (false, cs)

/-- Digits without needless zeros in front. -/
def wholeDigits : Scanner (List Char)
  | '0' :: rest => some (['0'], rest)
  | cs => digitRun Char.isDigit cs

def storedInt (negative : Bool) (n : Nat) : Option Json :=
  let value : Int := if negative then -(n : Int) else n
  if Int64.minValue.toInt ≤ value && value ≤ Int64.maxValue.toInt then some (.int value) else none

def isHexDigit (c : Char) : Bool := (Json.hexDigit? c).isSome

def valueInBase (base : Nat) (digits : List Char) : Nat :=
  digits.foldl (fun n c => n * base + (Json.hexDigit? c).getD 0) 0

def basedInteger (base : Nat) (p : Char → Bool) : Scanner Json := fun cs => do
  let (digits, rest) ← digitRun p cs
  some (← storedInt false (valueInBase base digits), rest)

def integer : Scanner Json
  | '0' :: 'x' :: rest => basedInteger 16 isHexDigit rest
  | '0' :: 'o' :: rest => basedInteger 8 (fun c => '0' ≤ c && c ≤ '7') rest
  | '0' :: 'b' :: rest => basedInteger 2 (fun c => c = '0' || c = '1') rest
  | cs => do
    let (negative, rest) := sign cs
    let (digits, rest) ← wholeDigits rest
    some (← storedInt negative (Decimal.digitsValue digits), rest)

def fractionDigits : Scanner (List Char) := fun cs => do
  let ((), rest) ← char '.' cs
  digitRun Char.isDigit rest

def exponent : Scanner Int := fun cs => do
  let ((), rest) ← orElse (char 'e') (char 'E') cs
  let (negative, rest) := sign rest
  let (digits, rest) ← digitRun Char.isDigit rest
  let n : Int := Decimal.digitsValue digits
  some (if negative then -n else n, rest)

/-- What makes a number a floating-point one: a fraction, a power of ten or both. -/
def fractionAndExponent : Scanner (List Char × Int) := fun cs =>
  match fractionDigits cs with
  | some (fraction, rest) =>
    match exponent rest with
    | some (power, rest) => some ((fraction, power), rest)
    | none => some ((fraction, 0), rest)
  | none => (exponent cs).map fun (power, rest) => (([], power), rest)

/-- A number that is no number, or one beyond all others. -/
def specialFloat : Scanner Json := fun cs =>
  let (negative, rest) := sign cs
  orElse
    (fun cs => (word "inf".toList cs).map fun r => (.float (Decimal.Binary.infinity negative), r.2))
    (fun cs => (word "nan".toList cs).map fun r => (.float (0.0 / 0.0), r.2)) rest

def decimalFloat : Scanner Json := fun cs => do
  let (negative, rest) := sign cs
  let (whole, rest) ← wholeDigits rest
  let ((fraction, power), rest) ← fractionAndExponent rest
  let value := Decimal.toFloat negative (Decimal.digitsValue (whole ++ fraction))
    (power - fraction.length)
  if value == Decimal.Binary.infinity false then none else some (.float value, rest)

/-! ## Dates and times -/

def fixedDigits (count : Nat) : Scanner (List Char × Nat) := fun cs =>
  let found := cs.take count
  if found.length == count && found.all Char.isDigit then
    some ((found, Decimal.digitsValue found), cs.drop count)
  else none

def twoDigits (bound : Nat) : Scanner (List Char) := fun cs => do
  let ((digits, n), rest) ← fixedDigits 2 cs
  if n ≤ bound then some (digits, rest) else none

def date : Scanner (List Char) := fun cs => do
  let ((year, y), rest) ← fixedDigits 4 cs
  let ((), rest) ← char '-' rest
  let ((month, m), rest) ← fixedDigits 2 rest
  let ((), rest) ← char '-' rest
  let ((day, d), rest) ← fixedDigits 2 rest
  let _ ← Time.Date.of? y m d
  some (year ++ '-' :: month ++ '-' :: day, rest)

/-- A fraction of a second without needless zeros. -/
def secondFraction (cs : List Char) : List Char × List Char :=
  match cs with
  | '.' :: rest =>
    match Scanner.run1 Char.isDigit rest with
    | some (digits, rest) =>
      let kept := ((digits.take 9).reverse.dropWhile (· = '0')).reverse
      (if kept.isEmpty then [] else '.' :: kept, rest)
    | none => ([], cs)
  | _ => ([], cs)

def timeOfDay : Scanner (List Char) := fun cs => do
  let (hour, rest) ← twoDigits 23 cs
  let ((), rest) ← char ':' rest
  let (minute, rest) ← twoDigits 59 rest
  let ((), rest) ← char ':' rest
  let (second, rest) ← twoDigits 60 rest
  let (fraction, rest) := secondFraction rest
  some (hour ++ ':' :: minute ++ ':' :: second ++ fraction, rest)

def offset : Scanner (List Char)
  | 'Z' :: rest => some (['Z'], rest)
  | 'z' :: rest => some (['Z'], rest)
  | c :: rest =>
    if c = '+' || c = '-' then do
      let (hour, rest) ← twoDigits 23 rest
      let ((), rest) ← char ':' rest
      let (minute, rest) ← twoDigits 59 rest
      some (c :: hour ++ ':' :: minute, rest)
    else none
  | [] => none

def timeBehindDate : Scanner (List Char) := fun cs => do
  let ((), rest) ← orElse (char 'T') (orElse (char 't') (char ' ')) cs
  let (time, rest) ← timeOfDay rest
  match offset rest with
  | some (clock, rest) => some ('T' :: time ++ clock, rest)
  | none => some ('T' :: time, rest)

/-- A date, a time of day or both. -/
def moment : Scanner (List Char) := fun cs =>
  match date cs with
  | some (day, rest) =>
    match timeBehindDate rest with
    | some (time, rest) => some (day ++ time, rest)
    | none => some (day, rest)
  | none => timeOfDay cs

def momentValue : Scanner Json := fun cs =>
  (moment cs).map fun (found, rest) =>
    (.object [("$__toml_private_datetime", .string (String.ofList found))], rest)

/-- A value that has no parts. -/
def scalar : Scanner Json := fun cs =>
  match cs with
  | [] => none
  | c :: _ =>
    if c = '"' || c = '\'' then (string cs).map fun (s, rest) => (.string s, rest)
    else if c = 't' then (word "true".toList cs).map fun r => (.bool true, r.2)
    else if c = 'f' then (word "false".toList cs).map fun r => (.bool false, r.2)
    else orElse momentValue (orElse decimalFloat (orElse specialFloat integer)) cs

end Groupwise.Toml
