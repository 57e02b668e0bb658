import Groupwise.Aggregate.Listing
import Groupwise.Doc.Qualification

/-!
# Sums over documents

The sum of a document metric over a group is the sum of what each dataset of the scope adds to it.
A metric that names a dataset is summed in that dataset alone.
-/
namespace Groupwise.Aggregate

variable {ν : Type} [Numeric ν]

def Metric.summedIn (datasets : List String) (m : Doc.Metric) : Metric ν :=
  Metric.sum (datasets.map (.docStatsIn · m))

/-- The datasets in which a document metric is summed: those of the scope, or the one it names. -/
def summedDatasets (scope : Names) (m : Doc.Metric) : CompileM Names :=
  match m.qualifications with
  | [] => .ok scope
  | [dataset] => .ok [dataset]
  | several =>
    .error (.invalid ("Doc Metric cannot have multiple different qualifications! metric = [" ++
      m.outline.compact ++ "], qualifications = [" ++ (Names.outline several).compact ++ "]"))

def Metric.stats (scope : Names) (m : Doc.Metric) : CompileM (Metric ν) := do
  pure (Metric.summedIn (← summedDatasets scope m) m)

omit [Numeric ν] in
/-- A metric of the datasets of a field alone, if their scope was narrowed. -/
def Metric.qualify (field : FieldSet) (m : Metric ν) : Metric ν :=
  if field.restricted then .qualified field.datasets m else m

end Groupwise.Aggregate
