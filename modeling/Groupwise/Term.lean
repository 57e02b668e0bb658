import Groupwise.Decimal.Numeral
import Groupwise.Json.Basic
import Groupwise.Text.Outline

/-!
# Terms

A term is one value of a field. A numeral keeps its spelling when that differs from the usual one,
so that writing it back loses neither leading zeros nor a sign.
-/
namespace Groupwise

inductive Term where
  | int (value : Int64) (spelling : Option String)
  | string (value : String)
  deriving Repr, DecidableEq, Inhabited

namespace Term

/-- An integer in its usual spelling. -/
def ofInt (value : Int64) : Term := .int value none

/-- Read a literal, as an integer if it is one. -/
def parse (text : String) : Term :=
  match Decimal.readInt64? text with
  | some value => .int value (if toString value.toInt == text then none else some text)
  | none => .string text

def isInt : Term → Bool
  | .int .. => true
  | .string _ => false

/-- The integer that the term is or spells. -/
def toInt? : Term → Option Int64
  | .int value _ => some value
  | .string value => Decimal.readInt64? value

/-- The text of the term as it was spelt. -/
def spell : Term → String
  | .int _ (some text) => text
  | .int value none => toString value.toInt
  | .string value => value

/-- The same text without a meaning as an integer. -/
def toText (term : Term) : Term := .string term.spell

/-- Fit a term to the type of a field; no term that is not an integer fits an integer field. -/
def fit? (isIntField : Bool) (term : Term) : Option Term :=
  match term, isIntField with
  | .int .., true => some term
  | .string _, true => term.toInt?.map ofInt
  | _, false => some term.toText

def display : Term → String
  | .string value => "\"" ++ value ++ "\""
  | term => term.spell

def outline : Term → Outline
  | .int value spelling =>
    .record "Int" [("value", .int64 value), ("original", .option .text spelling)]
  | .string value => .record "Str" [("value", .text value)]

def toJson : Term → Json
  | .int value spelling =>
    .object ([("type", .string "int"), ("value", .int64 value)] ++
      Json.optionalMember "original" .string spelling)
  | .string value => .object [("type", .string "string"), ("value", .string value)]

end Term

end Groupwise
