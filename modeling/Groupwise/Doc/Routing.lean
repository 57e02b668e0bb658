import Groupwise.Action
import Groupwise.Doc.Pushes
import Groupwise.Doc.Qualification
import Groupwise.GroupPool

/-!
# Filters as regrouping actions

A filter is lowered to actions that route the documents of a target group: to the positive group
where the filter holds and to the negative group where it does not. Conjunctions and disjunctions
test one operand after another on what is left in the target; when the target is also the place to
which decided documents go, these are set aside in a scratch group first.
-/
namespace Groupwise.Doc

def Filter.metricAction (f : Filter) (scope : Names) (r : Route) : CompileM Action := do
  pure (.metric scope (← Dictionary.collect scope fun dataset => f.pushes dataset) r)

/-- The datasets in which a comparison can be made: all of the scope, or the one that its metrics
name. -/
def comparisonScope (scope : Names) (left right : Metric) : CompileM Names :=
  let named := left.qualifications.union right.qualifications
  if 1 < named.length then
    .error (.invalid ("DocFilter cannot have multiple different qualifications! " ++
      "qualifications = " ++ named.outline.compact))
  else if !named.subset scope then
    .error (.invalid ("Scope does not contain qualifications! scope = " ++
      scope.outline.compact ++ ", qualifications = " ++ named.outline.compact))
  else .ok (if named.isEmpty then scope else named)

def Filter.leafAction (scope : Names) (r : Route) (f : Filter) : CompileM Action :=
  match f with
  | .fieldIs field term => do
    field.checkScope scope
    let queries ← Dictionary.collect scope fun dataset => do
      pure (Query.term (.ofTerm (← field.nameIn dataset) term))
    pure (.query scope queries r)
  | .between field lower upper inclusive => do
    field.checkScope scope
    let queries ← Dictionary.collect scope fun dataset => do
      pure (Query.intRange (← field.nameIn dataset) lower upper inclusive)
    pure (.query scope queries r)
  | .compare _ left right => do f.metricAction (← comparisonScope scope left right) r
  | .fieldEqual .. => f.metricAction scope r
  | .regex field pattern => do
    field.checkScope scope
    pure (.regex scope field pattern r)
  | .lucene _ queries => do
    let queries ← Dictionary.collect scope fun dataset =>
      match Dictionary.find? dataset queries with
      | some q => .ok q
      | none => .error (.unknownDataset dataset)
    pure (.query scope queries r)
  | .sample field _ n d seed => do
    field.checkScope scope
    pure (.sample scope field (floatOfNat n / floatOfNat d) seed r)
  | .sampleMetric m n d seed => do
    let programs ← Dictionary.collect scope fun dataset => m.pushes dataset
    pure (.sampleMetric scope programs (floatOfNat n / floatOfNat d) seed r)
  | .stringIn field terms => do
    field.checkScope scope
    pure (.stringOr scope field terms r)
  | .intIn field terms => do
    field.checkScope scope
    pure (.intOr scope field terms r)
  | .inQuery field query isNegated => .ok (.inQuery scope field query isNegated r)
  | .always => .ok (.unconditional scope r.target r.positive)
  | _ => .ok (.unconditional scope r.target r.negative)

mutual

/-- The actions of a filter, with the pool of scratch groups after them. -/
def Filter.actions (scope : Names) (r : Route) : Filter → GroupPool →
    CompileM (List Action × GroupPool)
  | .fieldIsnt field term, pool => do
    let action ← Filter.leafAction scope ⟨r.target, r.negative, r.positive⟩ (.fieldIs field term)
    pure ([action], pool)
  | .notRegex field pattern, pool => do
    let action ← Filter.leafAction scope ⟨r.target, r.negative, r.positive⟩ (.regex field pattern)
    pure ([action], pool)
  | .not f, pool => f.actions scope ⟨r.target, r.negative, r.positive⟩ pool
  | .qualified datasets f, pool =>
    -- No action concerns the other datasets, so their documents stay in the target.
    if datasets.subset scope then f.actions datasets r pool
    else .error (.invalid ("Qualified scope not subset of outer scope! qualified = " ++
      datasets.outline.compact ++ ", scope = " ++ scope.outline.compact))
  | .and fs, pool =>
    if fs.isEmpty then .ok ([.unconditional scope r.target r.positive], pool)
    else if r.target != r.negative && r.positive != r.negative then
      Filter.actionsUpTo scope ⟨r.target, r.target, r.negative⟩ r fs pool
    else
      -- What fails waits in a group of its own until every filter has tested the target.
      let (scratch, pool) := pool.acquire
      match Filter.actionsOfAll scope ⟨r.target, r.target, scratch⟩ fs pool with
      | .error e => .error e
      | .ok (actions, pool) =>
        .ok (actions ++ [.unconditional scope r.target r.positive,
          .unconditional scope scratch r.negative], pool.release scratch)
  | .or fs, pool =>
    if fs.isEmpty then .ok ([.unconditional scope r.target r.negative], pool)
    else if r.target != r.positive && r.positive != r.negative then
      Filter.actionsUpTo scope ⟨r.target, r.positive, r.target⟩ r fs pool
    else
      let (scratch, pool) := pool.acquire
      match Filter.actionsOfAll scope ⟨r.target, scratch, r.target⟩ fs pool with
      | .error e => .error e
      | .ok (actions, pool) =>
        .ok (actions ++ [.unconditional scope r.target r.negative,
          .unconditional scope scratch r.positive], pool.release scratch)
  | f, pool => do pure ([← f.leafAction scope r], pool)

def Filter.actionsOfAll (scope : Names) (r : Route) : List Filter → GroupPool →
    CompileM (List Action × GroupPool)
  | [], pool => .ok ([], pool)
  | f :: rest, pool =>
    match f.actions scope r pool with
    | .error e => .error e
    | .ok (actions, pool) =>
      match Filter.actionsOfAll scope r rest pool with
      | .error e => .error e
      | .ok (more, pool) => .ok (actions ++ more, pool)

/-- The actions of several filters, the last of them along a route of its own. -/
def Filter.actionsUpTo (scope : Names) (r last : Route) : List Filter → GroupPool →
    CompileM (List Action × GroupPool)
  | [], pool => .ok ([], pool)
  | f :: rest, pool =>
    if rest.isEmpty then f.actions scope last pool
    else
      match f.actions scope r pool with
      | .error e => .error e
      | .ok (actions, pool) =>
        match Filter.actionsUpTo scope r last rest pool with
        | .error e => .error e
        | .ok (more, pool) => .ok (actions ++ more, pool)

end

end Groupwise.Doc
