import Groupwise.Aggregate.Equality
import Groupwise.Aggregate.Listing
import Groupwise.Aggregate.Simplify
import Groupwise.Time.Timestamp

/-!
# Plans

The plan of a query says which datasets it reads, which documents count, how they are grouped and
what is selected for each group. Names in it are resolved to fields.
-/
namespace Groupwise

open Aggregate (Metric Grouping Revision)

/-- A dataset that a query reads. -/
structure Source where
  dataset : String
  /-- The name under which the query refers to the dataset. -/
  label : Option String := none
  start : Option Timestamp := none
  finish : Option Timestamp := none
  /-- Physical fields under the names that the query gives them. -/
  fieldAliases : Dictionary String := []
  deriving BEq, Inhabited

namespace Source

/-- The name that the rest of the query uses. -/
def scopeName (s : Source) : String := s.label.getD s.dataset

def outline (s : Source) : Outline :=
  .record "Dataset" [("dataset", .text s.dataset), ("alias", .option .text s.label),
    ("start", .option (fun t => .atom t.write) s.start),
    ("end", .option (fun t => .atom t.write) s.finish),
    ("field_aliases", .dictionary .text s.fieldAliases)]

def toJson (s : Source) : Json :=
  .object ([("name", .string s.dataset)] ++ Json.optionalMember "alias" .string s.label ++
    Json.optionalMember "start" (fun t => .string t.write) s.start ++
    Json.optionalMember "end" (fun t => .string t.write) s.finish)

end Source

structure Stage (ν : Type) where
  grouping : Grouping ν
  having : Option (Aggregate.Filter ν) := none
  label : Option String := none

structure Plan (ν : Type) where
  sources : List Source
  filter : Option Doc.Filter := none
  stages : List (Stage ν) := []
  selects : List (Metric ν) := []
  formats : List (Option String) := []
  options : List String := []
  rowLimit : Option Nat := none

variable {ν : Type} [Numeric ν]

namespace Stage

def outline (s : Stage ν) : Outline :=
  .record "GroupByEntry" [("group_by", s.grouping.outline),
    ("filter", .option Aggregate.Filter.outline s.having), ("alias", .option .text s.label)]

instance : BEq (Stage ν) where
  beq a b :=
    a.grouping == b.grouping && Aggregate.Filter.beqOption a.having b.having && a.label == b.label

def revise (r : Revision ν) (s : Stage ν) : Stage ν :=
  { s with grouping := s.grouping.revise r, having := Aggregate.Filter.reviseOption r s.having }

omit [Numeric ν] in
def traverse {M : Type → Type} [Monad M] (visit : Metric ν → M (Metric ν)) (s : Stage ν) :
    M (Stage ν) := do
  let grouping ← s.grouping.traverse visit
  let having ← Aggregate.traverseOption (Aggregate.Filter.traverse visit) s.having
  pure { s with grouping, having }

end Stage

namespace Plan

omit [Numeric ν] in
/-- The names that the query gives to its datasets. -/
def scope (p : Plan ν) : Names := Names.ofList (p.sources.map (·.scopeName))

/-- Enter the sources into a dictionary, each under a name of its own. -/
def enterSources (names : Dictionary String) : List Source → CompileM (Dictionary String)
  | [] => .ok names
  | s :: rest =>
    if (names.find? s.scopeName).isSome then
      .error (.invalid ("Duplicate name encountered: " ++ s.scopeName))
    else enterSources (names.insert s.scopeName s.dataset) rest

omit [Numeric ν] in
/-- The datasets under the names that the query gives them, which must differ. -/
def datasetNames (p : Plan ν) : CompileM (Dictionary String) := enterSources [] p.sources

def outline (p : Plan ν) : Outline :=
  .record "Query" [("datasets", .list (p.sources.map Source.outline)),
    ("filter", .option Doc.Filter.outline p.filter),
    ("group_bys", .list (p.stages.map Stage.outline)),
    ("selects", .list (p.selects.map Metric.outline)),
    ("format_strings", .list (p.formats.map (.option .text))),
    ("options", .list (p.options.map .text)), ("row_limit", .option .nat p.rowLimit)]

instance : BEq (Plan ν) where
  beq a b := a.sources == b.sources && a.filter == b.filter && a.stages == b.stages &&
    a.selects == b.selects && a.formats == b.formats && a.options == b.options &&
    a.rowLimit == b.rowLimit

def revise (r : Revision ν) (p : Plan ν) : Plan ν :=
  { p with
    filter := p.filter.map (·.revise r.docMetric r.docFilter)
    stages := p.stages.map (·.revise r)
    selects := p.selects.map (·.revise r) }

omit [Numeric ν] in
/-- Visit the metrics of a plan, those that filters compare included. -/
def traverse {M : Type → Type} [Monad M] (visit : Metric ν → M (Metric ν)) (p : Plan ν) :
    M (Plan ν) := do
  let stages ← p.stages.mapM (Stage.traverse visit)
  let selects ← p.selects.mapM visit
  pure { p with stages, selects }

def simplify (p : Plan ν) : Plan ν := p.revise Aggregate.simplification

end Plan

end Groupwise
