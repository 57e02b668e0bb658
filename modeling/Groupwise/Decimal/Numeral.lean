import Groupwise.Decimal.Binary

/-!
# Reading numerals

Whole and decimal numerals in plain text: an optional sign, digits with an optional point, and an
optional exponent.
-/
namespace Groupwise.Decimal

def digitsValue (cs : List Char) : Nat :=
  cs.foldl (fun n c => 10 * n + (c.toNat - '0'.toNat)) 0

/-- A non-empty run of decimal digits. -/
def readNat? (cs : List Char) : Option Nat :=
  if cs.isEmpty || !cs.all Char.isDigit then none else some (digitsValue cs)

def splitSign : List Char → Bool × List Char
  | '-' :: rest => (true, rest)
  | '+' :: rest => (false, rest)
  | cs => (false, cs)

def readInt? (cs : List Char) : Option Int :=
  let (negative, rest) := splitSign cs
  (readNat? rest).map fun n => if negative then -(n : Int) else (n : Int)

/-- A signed 64-bit numeral: an optional sign and digits, within range. -/
def readInt64? (text : String) : Option Int64 :=
  match readInt? text.toList with
  | some n => if Int64.minValue.toInt ≤ n && n ≤ Int64.maxValue.toInt then some (Int64.ofInt n) else none
  | none => none

/-- The exponent part of a decimal numeral, which may be missing. -/
def readExponent? : List Char → Option Int
  | [] => some 0
  | c :: rest => if c = 'e' || c = 'E' then readInt? rest else none

def readUnsigned? (negative : Bool) (cs : List Char) : Option Float :=
  let whole := cs.takeWhile Char.isDigit
  let rest := cs.dropWhile Char.isDigit
  let (fraction, rest) := match rest with
    | '.' :: more => (more.takeWhile Char.isDigit, more.dropWhile Char.isDigit)
    | _ => ([], rest)
  if whole.isEmpty && fraction.isEmpty then none
  else
    (readExponent? rest).map fun exponent =>
      toFloat negative (digitsValue (whole ++ fraction)) (exponent - (fraction.length : Int))

/-- A double in plain text, among them the names of infinity and of what is not a number in any
letter case. -/
def readFloat? (text : String) : Option Float :=
  let (negative, rest) := splitSign text.toList
  let word := String.ofList (rest.map Char.toLower)
  if word == "inf" || word == "infinity" then some (Binary.infinity negative)
  else if word == "nan" then some (0.0 / 0.0)
  else readUnsigned? negative rest

end Groupwise.Decimal
