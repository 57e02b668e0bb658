import Groupwise.Decimal.Shortest

/-!
# Number layouts

A layout fixes how shortest digits become text: the decades that are written out in full, the mark
of whole numbers, and the form of the exponent. A double can also be rounded to a fixed number of
decimal places, ties to the even neighbour.
-/
namespace Groupwise.Decimal

structure Layout where
  /-- The least magnitude, as the exponent of its leading digit, that is written in full. -/
  leastPlain : Option Int
  greatestPlain : Option Int
  /-- What follows a whole number written in full. -/
  wholeMark : String
  exponentSign : String
  tie : Tie := .upper
  notANumber : String
  infinite : String

/-- Listings keep a point in whole numbers and use an exponent below `10 ^ -4` and from
`10 ^ 16`. -/
def Layout.listing : Layout where
  leastPlain := some (-4)
  greatestPlain := some 15
  wholeMark := ".0"
  exponentSign := ""
  notANumber := "NaN"
  infinite := "inf"

/-- Plain text never uses an exponent and leaves whole numbers bare. -/
def Layout.plain : Layout where
  leastPlain := none
  greatestPlain := none
  wholeMark := ""
  exponentSign := ""
  notANumber := "NaN"
  infinite := "inf"

/-- Data documents sign a positive exponent, prefer an even last digit, and have no number for what
is not finite. -/
def Layout.document : Layout where
  leastPlain := some (-5)
  greatestPlain := some 15
  wholeMark := ".0"
  exponentSign := "+"
  tie := .even
  notANumber := "null"
  infinite := "null"

def zeros (n : Nat) : String := String.ofList (List.replicate n '0')

def writePlain (l : Layout) (d : Digits) : String :=
  let text := toString d.digits
  let count := text.length
  if d.point ≤ 0 then "0." ++ zeros (-d.point).toNat ++ text
  else if count ≤ d.point.toNat then text ++ zeros (d.point.toNat - count) ++ l.wholeMark
  else
    let cs := text.toList
    String.ofList (cs.take d.point.toNat) ++ "." ++ String.ofList (cs.drop d.point.toNat)

def writeScientific (l : Layout) (d : Digits) : String :=
  let cs := (toString d.digits).toList
  let mantissa := match cs with
    | [] => ""
    | [c] => c.toString
    | c :: rest => c.toString ++ "." ++ String.ofList rest
  let exponent := d.point - 1
  mantissa ++ "e" ++ (if 0 ≤ exponent then l.exponentSign else "") ++ toString exponent

def Layout.write (l : Layout) (x : Float) : String :=
  match Binary.ofFloat x with
  | .nan => l.notANumber
  | .infinite negative =>
    (if negative && l.infinite != l.notANumber then "-" else "") ++ l.infinite
  | .finite negative 0 _ => (if negative then "-0" else "0") ++ l.wholeMark
  | .finite negative significand exponent =>
    let d := shortest l.tie significand exponent
    let leading := d.point - 1
    let plain := (l.leastPlain.all (· ≤ leading)) && (l.greatestPlain.all (leading ≤ ·))
    (if negative then "-" else "") ++ (if plain then writePlain l d else writeScientific l d)

/-! ## Fixed places -/

/-- The magnitude in units of the last place, rounded. -/
def unitsOfPlace (places significand : Nat) (exponent : Int) : Nat :=
  if 0 ≤ exponent then significand * Nat.pow 2 exponent.toNat * Nat.pow 10 places
  else Binary.roundDiv (significand * Nat.pow 10 places) (Nat.pow 2 (-exponent).toNat)

def writeUnits (places units : Nat) : String :=
  let whole := toString (units / Nat.pow 10 places)
  if places == 0 then whole
  else
    let fraction := toString (units % Nat.pow 10 places)
    whole ++ "." ++ zeros (places - fraction.length) ++ fraction

end Groupwise.Decimal
