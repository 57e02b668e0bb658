import Groupwise.Doc.Revision

/-!
# Datasets that a metric names

A metric that names a dataset has a meaning in that dataset alone.
-/
namespace Groupwise.Doc

mutual

/-- The datasets named by qualified parts of a metric, in the order in which they are met. -/
def Metric.qualifiedNames : Metric → List String
  | .qualified d m => m.qualifiedNames ++ [d]
  | .log m _ => m.qualifiedNames
  | .exponentiate m _ => m.qualifiedNames
  | .negate m => m.qualifiedNames
  | .abs m => m.qualifiedNames
  | .signum m => m.qualifiedNames
  | .add ms => Metric.qualifiedNamesOfAll ms
  | .least ms => Metric.qualifiedNamesOfAll ms
  | .greatest ms => Metric.qualifiedNamesOfAll ms
  | .arithmetic _ l r => l.qualifiedNames ++ r.qualifiedNames
  | .compare _ l r => l.qualifiedNames ++ r.qualifiedNames
  | .ifThenElse c y n => c.qualifiedNames ++ y.qualifiedNames ++ n.qualifiedNames
  | .perDataset ms => Metric.qualifiedNamesOfEntries ms
  | .sampleMetric m _ _ _ => m.qualifiedNames
  | .randomMetric m _ _ => m.qualifiedNames
  | _ => []

def Metric.qualifiedNamesOfAll : List Metric → List String
  | [] => []
  | m :: rest => m.qualifiedNames ++ Metric.qualifiedNamesOfAll rest

def Metric.qualifiedNamesOfEntries : List (String × Metric) → List String
  | [] => []
  | (_, m) :: rest => m.qualifiedNames ++ Metric.qualifiedNamesOfEntries rest

def Filter.qualifiedNames : Filter → List String
  | .compare _ l r => l.qualifiedNames ++ r.qualifiedNames
  | .and fs => Filter.qualifiedNamesOfAll fs
  | .or fs => Filter.qualifiedNamesOfAll fs
  | .not f => f.qualifiedNames
  | .qualified _ f => f.qualifiedNames
  | .sampleMetric m _ _ _ => m.qualifiedNames
  | _ => []

def Filter.qualifiedNamesOfAll : List Filter → List String
  | [] => []
  | f :: rest => f.qualifiedNames ++ Filter.qualifiedNamesOfAll rest

end

def Metric.qualifications (m : Metric) : Names := Names.ofList m.qualifiedNames

end Groupwise.Doc

namespace Groupwise.FieldSet

/-- A filter that concerns the datasets of the field alone, if their scope was narrowed. -/
def qualifyFilter (field : FieldSet) (f : Doc.Filter) : Doc.Filter :=
  if field.restricted then .qualified field.datasets f else f

/-- A metric that has a meaning in the dataset of the field alone, if the scope was narrowed. A
metric can be narrowed to one dataset only. -/
def qualifyMetric (field : FieldSet) (m : Doc.Metric) : CompileM Doc.Metric :=
  if !field.restricted then .ok m
  else match field.datasets with
    | [dataset] => .ok (.qualified dataset m)
    | _ => .error (.invalid "Too large scope for a DocMetric!")

end Groupwise.FieldSet
