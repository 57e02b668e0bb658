import Groupwise.Catalog
import Groupwise.Doc.Validation

/-!
# Regrouping actions

The engine keeps every document in a group. An action moves the documents of its datasets that are
in its target group, to one of two groups by a test or all of them to one group.
-/
namespace Groupwise

/-- The groups of a conditional action: what is tested, and where it goes. -/
structure Route where
  target : Nat
  positive : Nat
  negative : Nat
  deriving Repr, DecidableEq, Inhabited

inductive Action where
  | query (scope : Names) (queries : Dictionary Doc.Query) (route : Route)
  | metric (scope : Names) (programs : Dictionary (List String)) (route : Route)
  | regex (scope : Names) (field : FieldSet) (pattern : String) (route : Route)
  | intOr (scope : Names) (field : FieldSet) (terms : List Int64) (route : Route)
  | stringOr (scope : Names) (field : FieldSet) (terms : Names) (route : Route)
  | sample (scope : Names) (field : FieldSet) (probability : Float) (seed : String)
      (route : Route)
  | sampleMetric (scope : Names) (programs : Dictionary (List String)) (probability : Float)
      (seed : String) (route : Route)
  /-- All documents of the target move. -/
  | unconditional (scope : Names) (target newGroup : Nat)
  /-- Stands for a test of membership in the answer to another query. -/
  | inQuery (scope : Names) (field : FieldSet) (query : String) (isNegated : Bool) (route : Route)

namespace Action

def routeMembers (r : Route) : List (String × Json) :=
  [("target", .nat r.target), ("positive", .nat r.positive), ("negative", .nat r.negative)]

def document (kind : String) (scope : Names) (members : List (String × Json)) : Json :=
  .object ([("action", .string kind), ("scope", .strings scope)] ++ members)

def toJson : Action → Json
  | .query scope queries r =>
    document "queryAction" scope
      (("perDatasetQuery", .dictionary Doc.Query.toJson queries) :: routeMembers r)
  | .metric scope programs r =>
    document "metricAction" scope
      (("perDatasetFilter", .dictionary .strings programs) :: routeMembers r)
  | .regex scope field pattern r =>
    document "regexAction" scope
      (("field", field.toJson) :: ("regex", .string pattern) :: routeMembers r)
  | .intOr scope field terms r =>
    document "intOrAction" scope
      (("field", field.toJson) :: ("terms", .list .int64 terms) :: routeMembers r)
  | .stringOr scope field terms r =>
    document "stringOrAction" scope
      (("field", field.toJson) :: ("terms", .strings terms) :: routeMembers r)
  | .sample scope field probability seed r =>
    document "sampleAction" scope
      (("field", field.toJson) :: ("probability", .float probability) ::
        ("seed", .string seed) :: routeMembers r)
  | .sampleMetric scope programs probability seed r =>
    document "sampleMetricAction" scope
      (("perDatasetMetric", .dictionary .strings programs) ::
        ("probability", .float probability) :: ("seed", .string seed) :: routeMembers r)
  | .unconditional scope target newGroup =>
    document "unconditionalAction" scope [("target", .nat target), ("newGroup", .nat newGroup)]
  | .inQuery scope field text isNegated r =>
    document "fieldInQueryPlaceholderAction" scope
      (("field", field.toJson) :: ("query", .string text) ::
        ("isNegated", .bool isNegated) :: routeMembers r)

/-- Check a field in each dataset of a scope; a dataset in which it has no name stops the check. -/
def checkFieldIn (check : String → String → String → Findings → Findings) (scope : Names)
    (field : FieldSet) (found : Findings) : CompileM Findings :=
  scope.foldlM
    (fun found dataset => do pure (check dataset (← field.nameIn dataset) "filter" found)) found

def check (schema : Schema) (action : Action) (found : Findings) : CompileM Findings :=
  match action with
  | .query _ queries _ =>
    .ok (queries.foldl (fun found e => e.2.check schema e.1 found) found)
  | .regex scope field .. => checkFieldIn schema.checkField scope field found
  | .sample scope field .. => checkFieldIn schema.checkField scope field found
  | .inQuery scope field .. => checkFieldIn schema.checkField scope field found
  | .intOr scope field .. => checkFieldIn schema.checkIntField scope field found
  | .stringOr scope field .. => checkFieldIn schema.checkStringField scope field found
  -- What a metric reads is not looked up in the schema.
  | .metric .. => .ok found
  | .sampleMetric .. => .ok found
  | .unconditional .. => .ok found

/-- The queries of two consecutive actions, joined where both have one for a dataset. -/
def joinQueries (operator : Doc.Connective) (queries next : Dictionary Doc.Query) :
    Dictionary Doc.Query :=
  queries.map fun (dataset, q) =>
    match next.find? dataset with
    | some other => (dataset, .boolean operator [q, other])
    | none => (dataset, q)

/-- One query action in place of two consecutive ones with the same scope and groups. Documents
that stay in the target are tested again, so the queries are joined by "or" when a failed test
leaves them there and by "and" when a passed one does. -/
def merge? (first second : Action) : Option Action :=
  match first, second with
  | .query scope queries r, .query scope' next r' =>
    if scope == scope' && r == r' && (r.target == r.negative || r.target == r.positive) then
      let operator : Doc.Connective := if r.target == r.negative then .or else .and
      some (.query scope (joinQueries operator queries next) r)
    else none
  | _, _ => none

def mergeInto (pending : Action) : List Action → List Action
  | [] => [pending]
  | next :: rest =>
    match merge? pending next with
    | some joined => mergeInto joined rest
    | none => pending :: mergeInto next rest

/-- Replace runs of query actions by single ones where one query can answer them all. -/
def mergeQueries : List Action → List Action
  | [] => []
  | first :: rest => mergeInto first rest

end Action

end Groupwise
