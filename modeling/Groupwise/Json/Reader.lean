import Groupwise.Decimal.Numeral
import Groupwise.Json.Draft

/-!
# Reading documents

A reader takes the characters that are left and gives a value with the characters after it. When the
text is no document, there is nothing after it, and the value is as much of a draft as there is.
-/
namespace Groupwise.Json

def isBlank (c : Char) : Bool := c = ' ' || c = '\n' || c = '\t' || c = '\r'

def skipBlanks (cs : List Char) : List Char := cs.dropWhile isBlank

def hexDigit? (c : Char) : Option Nat :=
  if c.isDigit then some (c.toNat - '0'.toNat)
  else if 'a' ≤ c ∧ c ≤ 'f' then some (c.toNat - 'a'.toNat + 10)
  else if 'A' ≤ c ∧ c ≤ 'F' then some (c.toNat - 'A'.toNat + 10)
  else none

def readHex4 : List Char → Option (Nat × List Char)
  | a :: b :: c :: d :: rest => do
    let a ← hexDigit? a
    let b ← hexDigit? b
    let c ← hexDigit? c
    let d ← hexDigit? d
    pure (((a * 16 + b) * 16 + c) * 16 + d, rest)
  | _ => none

/-- A character given by its number, in one or two units. One unit of two alone is no character. -/
def readUnits (cs : List Char) : Option (Option Char × List Char) := do
  let (unit, rest) ← readHex4 cs
  if unit < 0xD800 || 0xDFFF < unit then some (some (Char.ofNat unit), rest)
  else match rest with
    | '\\' :: 'u' :: more =>
      match readHex4 more with
      | some (low, after) =>
        if unit ≤ 0xDBFF && 0xDC00 ≤ low && low ≤ 0xDFFF then
          some (some (Char.ofNat (0x10000 + (unit - 0xD800) * 0x400 + (low - 0xDC00))), after)
        else some (none, rest)
      | none => none
    | _ => some (none, rest)

def escaped? : Char → Option Char
  | '"' => some '"'
  | '\\' => some '\\'
  | '/' => some '/'
  | 'b' => some '\x08'
  | 'f' => some '\x0c'
  | 'n' => some '\n'
  | 'r' => some '\r'
  | 't' => some '\t'
  | _ => none

/-- The characters of a string after its opening quote, or no text if one of them is none; the fuel
is the number of characters. -/
def readChars : Nat → Option (List Char) → List Char → Option (Option String × List Char)
  | 0, _, _ => none
  | fuel + 1, out, cs =>
    match cs with
    | [] => none
    | '"' :: rest => some (out.map fun found => String.ofList found.reverse, rest)
    | '\\' :: 'u' :: rest => do
      let (c, rest) ← readUnits rest
      readChars fuel (do some ((← c) :: (← out))) rest
    | '\\' :: c :: rest => do
      let c ← escaped? c
      readChars fuel (out.map (c :: ·)) rest
    | c :: rest => if c.toNat < 0x20 || c = '\\' then none else readChars fuel (out.map (c :: ·)) rest

def readString (cs : List Char) : Option (Option String × List Char) :=
  readChars (cs.length + 1) (some []) cs

/-- Digits of a whole part: a zero stands alone. -/
def readWhole (cs : List Char) : Option (List Char × List Char) :=
  match cs with
  | '0' :: rest =>
    match rest with
    | c :: _ => if c.isDigit then none else some (['0'], rest)
    | [] => some (['0'], rest)
  | _ =>
    let digits := cs.takeWhile Char.isDigit
    if digits.isEmpty then none else some (digits, cs.dropWhile Char.isDigit)

def readFraction : List Char → Option (Option (List Char) × List Char)
  | '.' :: rest =>
    let digits := rest.takeWhile Char.isDigit
    if digits.isEmpty then none else some (some digits, rest.dropWhile Char.isDigit)
  | cs => some (none, cs)

def readPower : List Char → Option (Option Int × List Char)
  | c :: rest =>
    if c = 'e' || c = 'E' then
      let (negative, rest) := Decimal.splitSign rest
      let digits := rest.takeWhile Char.isDigit
      if digits.isEmpty then none
      else
        let n : Int := Decimal.digitsValue digits
        some (some (if negative then -n else n), rest.dropWhile Char.isDigit)
    else some (none, c :: rest)
  | [] => some (none, [])

/-- A number. Whole numerals of 64 bits stay whole, all others are doubles and must be finite. -/
def readNumber (cs : List Char) : Option (Draft × List Char) := do
  let (negative, rest) := match cs with
    | '-' :: rest => (true, rest)
    | _ => (false, cs)
  let (whole, rest) ← readWhole rest
  let (fraction, rest) ← readFraction rest
  let (power, rest) ← readPower rest
  let n := Decimal.digitsValue whole
  if fraction.isNone && power.isNone &&
      (if negative then 0 < n && n ≤ UInt64.size / 2 else n < UInt64.size) then
    pure (.int (if negative then -(n : Int) else n), rest)
  else
    let digits := fraction.getD []
    let x := Decimal.toFloat negative (Decimal.digitsValue (whole ++ digits))
      (power.getD 0 - (digits.length : Int))
    pure (if x.isInf then .malformed else .float x, rest)

/-- What was read and what is left, if the text can be read on. -/
abbrev Reading := Draft × Option (List Char)

def Reading.ofOption : Option (Draft × List Char) → Reading
  | some (found, rest) => (found, some rest)
  | none => (.malformed, none)

def readItems (value : List Char → Reading) : Nat → List Draft → List Char → Reading
  | 0, _, _ => (.malformed, none)
  | fuel + 1, out, cs =>
    match value cs with
    | (item, none) => (.array (item :: out).reverse false, none)
    | (item, some rest) =>
      match skipBlanks rest with
      | ',' :: rest => readItems value fuel (item :: out) rest
      | ']' :: rest => (.array (item :: out).reverse true, some rest)
      | _ => (.array (item :: out).reverse false, none)

def readMembers (value : List Char → Reading) :
    Nat → List (Option String × Draft) → List Char → Reading
  | 0, _, _ => (.malformed, none)
  | fuel + 1, out, cs =>
    match skipBlanks cs with
    | '"' :: rest =>
      match readString rest with
      | none => (.object out.reverse false, none)
      | some (name, rest) =>
        match skipBlanks rest with
        | ':' :: rest =>
          match value rest with
          | (item, none) => (.object ((name, item) :: out).reverse false, none)
          | (item, some rest) =>
            match skipBlanks rest with
            | ',' :: rest => readMembers value fuel ((name, item) :: out) rest
            | '\x7d' :: rest => (.object ((name, item) :: out).reverse true, some rest)
            | _ => (.object ((name, item) :: out).reverse false, none)
        | _ => (.object ((name, .malformed) :: out).reverse false, none)
    | _ => (.object out.reverse false, none)

/-- A value; the fuel bounds how deep it is nested. -/
def readValue : Nat → List Char → Reading
  | 0, _ => (.malformed, none)
  | depth + 1, cs =>
    match skipBlanks cs with
    | 'n' :: 'u' :: 'l' :: 'l' :: rest => (.null, some rest)
    | 't' :: 'r' :: 'u' :: 'e' :: rest => (.bool true, some rest)
    | 'f' :: 'a' :: 'l' :: 's' :: 'e' :: rest => (.bool false, some rest)
    | '"' :: rest => .ofOption do
      let (text, rest) ← readString rest
      some (text.elim .malformed .string, rest)
    | '[' :: rest =>
      match skipBlanks rest with
      | ']' :: rest => (.array [] true, some rest)
      | _ => readItems (readValue depth) (rest.length + 1) [] rest
    | '\x7b' :: rest =>
      match skipBlanks rest with
      | '\x7d' :: rest => (.object [] true, some rest)
      | _ => readMembers (readValue depth) (rest.length + 1) [] rest
    | rest => .ofOption (readNumber rest)

def readDraft (text : String) : Reading := readValue (text.length + 1) text.toList

def read? (text : String) : Option Json :=
  match readDraft text with
  | (found, some rest) => if (skipBlanks rest).isEmpty then found.toJson? else none
  | (_, none) => none

end Groupwise.Json
