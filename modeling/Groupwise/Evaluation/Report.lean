import Groupwise.Decimal.Layout
import Groupwise.Evaluation.GroupKeys
import Groupwise.Json.Decode

/-!
# Reports

The answer to a query has one row for each group: the keys on the way to the group, and then its
numbers. Rows are written as lines of columns separated by tabulators, or as a data document.
-/
namespace Groupwise.Evaluation

structure Row where
  keys : List String := []
  stats : List Float := []

namespace Row

/-- Numbers have seven places at most, without zeros at the end, and whole ones have no point. -/
def writeStat (x : Float) : String :=
  match Decimal.Binary.ofFloat x with
  | .nan => "NaN"
  | .infinite negative => if negative then "-Infinity" else "Infinity"
  | .finite negative significand exponent =>
    let units := Decimal.unitsOfPlace 7 significand exponent
    let text := (Decimal.writeUnits 7 units).toList.reverse
    let text := ((text.dropWhile (· = '0')).dropWhile (· = '.')).reverse
    (if negative && units != 0 then "-" else "") ++ String.ofList text

/-- A key without characters that would end a column or a line. -/
def cleanKey (key : String) : String :=
  key.map fun c => if c = '\t' || c = '\r' || c = '\n' then '\ufffd' else c

def columns (r : Row) : List String :=
  (if r.keys.isEmpty then [""] else r.keys.map cleanKey) ++ r.stats.map writeStat

/-- A line of columns. A line of one empty column is quoted, so that it is no empty line. -/
def line (r : Row) : String :=
  match r.columns with
  | [""] => "\"\"\n"
  | columns => "\t".intercalate columns ++ "\n"

def toJson (r : Row) : Json :=
  .object [("keys", .strings r.keys), ("stats", .list .float r.stats)]

/-- A number of a row; null stands for what is not a number. -/
def statDecoder : Json.Decoder Float
  | .null => .ok (0.0 / 0.0)
  | d => Json.Decoder.number d

def decoder : Json.Decoder Row :=
  .record {} [
    .optional "keys" (.list .string) fun keys r => { r with keys },
    .optional "stats" (.list statDecoder) fun stats r => { r with stats }]

end Row

def rows (keys : GroupKeys) (columns : List (List Float)) : List Row :=
  (List.range keys.size).map fun i =>
    { keys := (keys.path (i + 1)).map GroupKey.display
      stats := columns.map (·.getD (i + 1) 0.0) }

def readRows? (text : String) : Option (List Row) := (Json.Decoder.list Row.decoder).ofText? text

def writeLines (rows : List Row) : String := String.join (rows.map Row.line)

def writeDocument (rows : List Row) : String := (Json.list Row.toJson rows).compact

end Groupwise.Evaluation
