import Groupwise.Json.Basic
import Groupwise.Term

/-!
# Index queries

An index query selects documents of one dataset by the terms of their fields. The engine answers it
from its index alone.
-/
namespace Groupwise.Doc

/-- A field with one of its terms. -/
structure FieldTerm where
  field : String
  isIntField : Bool
  intTerm : Option Int64
  stringTerm : Option String
  deriving Repr, DecidableEq, Inhabited

namespace FieldTerm

def int (field : String) (value : Int64) : FieldTerm := ⟨field, true, some value, none⟩

def string (field value : String) : FieldTerm := ⟨field, false, none, some value⟩

def ofTerm (field : String) : Term → FieldTerm
  | .int value _ => int field value
  | .string value => string field value

def toTerm (t : FieldTerm) : Term :=
  match t.intTerm, t.stringTerm with
  | some v, none => .ofInt v
  | some v, some s => if t.isIntField then .ofInt v else .string s
  | none, some s => .string s
  | none, none => .string ""

def outline (t : FieldTerm) : Outline :=
  .record "QueryTerm" [("field", .text t.field), ("is_int_field", .bool t.isIntField),
    ("int_term", .option .int64 t.intTerm), ("string_term", .option .text t.stringTerm)]

def toJson (t : FieldTerm) : Json :=
  .object ([("field", .string t.field), ("isIntField", .bool t.isIntField)] ++
    Json.optionalMember "intTerm" .int64 t.intTerm ++
    Json.optionalMember "stringTerm" .string t.stringTerm)

end FieldTerm

inductive Connective where
  | and | or | not
  deriving Repr, DecidableEq, Inhabited

namespace Connective

def label : Connective → String
  | .and => "And"
  | .or => "Or"
  | .not => "Not"

def keyword : Connective → String
  | .and => "AND"
  | .or => "OR"
  | .not => "NOT"

end Connective

inductive Query where
  | term (start : FieldTerm)
  | boolean (operator : Connective) (operands : List Query)
  /-- All terms from the start to the end. -/
  | range (start stop : FieldTerm) (isMaxInclusive : Bool)
  deriving Inhabited

namespace Query

def intRange (field : String) (lower upper : Int64) (isMaxInclusive : Bool) : Query :=
  .range (.int field lower) (.int field upper) isMaxInclusive

mutual

/-- The fields of the query with the types in which they are used. -/
def fields : Query → List (String × Bool)
  | .term start => [(start.field, start.isIntField)]
  | .boolean _ operands => fieldsOfAll operands
  | .range start _ _ => [(start.field, start.isIntField)]

def fieldsOfAll : List Query → List (String × Bool)
  | [] => []
  | q :: rest => fields q ++ fieldsOfAll rest

end

mutual

def outline : Query → Outline
  | .term start => .record "Term" [("start_term", start.outline)]
  | .boolean operator operands =>
    .record "Boolean" [("operator", .atom operator.label),
      ("operands", .list (outlineAll operands))]
  | .range start stop inclusive =>
    .record "Range" [("start_term", start.outline), ("end_term", stop.outline),
      ("is_max_inclusive", .bool inclusive)]

def outlineAll : List Query → List Outline
  | [] => []
  | q :: rest => outline q :: outlineAll rest

end

mutual

def toJson : Query → Json
  | .term start => .object [("type", .string "TERM"), ("startTerm", start.toJson)]
  | .boolean operator operands =>
    .object [("type", .string "BOOLEAN"), ("operator", .string operator.keyword),
      ("operands", .array (toJsonAll operands))]
  | .range start stop inclusive =>
    .object [("type", .string "RANGE"), ("startTerm", start.toJson), ("endTerm", stop.toJson),
      ("isMaxInclusive", .bool inclusive)]

def toJsonAll : List Query → List Json
  | [] => []
  | q :: rest => toJson q :: toJsonAll rest

end

mutual

def beq : Query → Query → Bool
  | .term a, .term b => a == b
  | .boolean p as, .boolean q bs => p == q && beqAll as bs
  | .range a b i, .range c d j => a == c && b == d && i == j
  | _, _ => false

def beqAll : List Query → List Query → Bool
  | [], [] => true
  | a :: as, b :: bs => beq a b && beqAll as bs
  | _, _ => false

end

instance : BEq Query := ⟨beq⟩

end Query

end Groupwise.Doc
