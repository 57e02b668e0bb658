import Groupwise.Decimal.Numeral
import Groupwise.Doc.Query
import Groupwise.Error

/-!
# Embedded index queries

A query may embed an index query in Lucene notation, whose field names are still those of the
query. Resolving the names in a dataset gives an index query of that dataset.
-/
namespace Groupwise.Lucene

inductive Query where
  | term (field value : String)
  /-- From the lower bound on, up to the upper bound or short of it. -/
  | range (field lower upper : String) (isUpperInclusive : Bool)
  | and (queries : List Query)
  | or (queries : List Query)
  | not (query : Query)
  deriving Inhabited

namespace Query

mutual

def outline : Query → Outline
  | .term field value => .record "Term" [("field", .text field), ("value", .text value)]
  | .range field lower upper inclusive =>
    .record "Range" [("field", .text field), ("lower", .text lower), ("upper", .text upper),
      ("is_upper_inclusive", .bool inclusive)]
  | .and queries => .tuple "And" [.list (outlineAll queries)]
  | .or queries => .tuple "Or" [.list (outlineAll queries)]
  | .not query => .tuple "Not" [outline query]

def outlineAll : List Query → List Outline
  | [] => []
  | q :: rest => outline q :: outlineAll rest

end

mutual

/-- The fields in the order in which they are named. -/
def fields : Query → List String
  | .term field _ => [field]
  | .range field .. => [field]
  | .and queries => fieldsOfAll queries
  | .or queries => fieldsOfAll queries
  | .not query => fields query

def fieldsOfAll : List Query → List String
  | [] => []
  | q :: rest => fields q ++ fieldsOfAll rest

end

/-- A bound or value of an integer field. -/
def readInt (value field : String) : CompileM Int64 :=
  match Decimal.readInt64? value with
  | some n => .ok n
  | none =>
    .error (.invalid ("A non integer value '" ++ value ++ "' specified for an integer field: " ++
      field))

mutual

/-- Resolve the fields, which gives the physical name and whether the field is an integer one. -/
def resolve (field? : String → CompileM (String × Bool)) : Query → CompileM Doc.Query
  | .term field value => do
    let (name, isInt) ← field? field
    if isInt then pure (.term (.int name (← readInt value name)))
    else pure (.term (.string name value))
  | .range field lower upper inclusive => do
    let (name, isInt) ← field? field
    if isInt then
      let low ← readInt lower name
      let high ← readInt upper name
      pure (.intRange name low high inclusive)
    else pure (.range (.string name lower) (.string name upper) inclusive)
  | .and queries => do pure (.boolean .and (← resolveAll field? queries))
  | .or queries => do pure (.boolean .or (← resolveAll field? queries))
  | .not query => do pure (.boolean .not [← resolve field? query])

def resolveAll (field? : String → CompileM (String × Bool)) :
    List Query → CompileM (List Doc.Query)
  | [] => .ok []
  | q :: rest => do
    let first ← resolve field? q
    let others ← resolveAll field? rest
    pure (first :: others)

end

end Query

end Groupwise.Lucene
