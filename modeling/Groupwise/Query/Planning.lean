import Groupwise.Query.GroupResolution
import Groupwise.Query.TimePoint

/-!
# Planning queries

The plan of a query has its names resolved against the catalog and its times by the clock of the
configuration. What cannot be resolved is collected, not thrown.
-/
namespace Groupwise.Query

/-- How many seconds the clock of the queries is ahead of universal time. The number is kept in 32
bits and must be less than a day. -/
def clockOffset (settings : Settings) : CompileM Int :=
  let seconds := (settings.timezoneHours * 3600).bmod UInt32.size
  if seconds.natAbs < 86400 then .ok seconds
  else .error (.invalid ("Invalid timezone offset: " ++ toString settings.timezoneHours))

def resolveTime (now : Timestamp) : Option TimePoint → Reporting (Option Timestamp)
  | none => pure none
  | some t =>
    match t.resolve now with
    | .ok time => pure (some time)
    | .error problem => do
      report problem.message
      pure none

def From.isCountable (now : Timestamp) (f : From) : Bool :=
  f.start.all (·.isCountable now) && f.finish.all (·.isCountable now)

/-- Note a start that is not before the end. -/
def checkTimes (name : String) : Option Timestamp → Option Timestamp → Reporting Unit
  | some start, some finish => do
    if finish.notAfter start then
      report ("Start time must be before end time for dataset \"" ++ name ++ "\": " ++
        start.write ++ " >= " ++ finish.write)
  | _, _ => pure ()

def From.source (now : Timestamp) (f : From) : Reporting Source := do
  let start ← resolveTime now f.start
  let finish ← resolveTime now f.finish
  checkTimes f.name start finish
  pure { dataset := f.name, label := f.label, start, finish,
         fieldAliases := Dictionary.ofList (f.fieldAliases.map fun e => (e.2, e.1)) }

def Stage.resolve (r : Resolution) (scope : Scope) (s : Stage) :
    Reporting (Groupwise.Stage Float) := do
  let grouping ← s.grouping.resolve r scope
  let having ← Filter.resolveOption r scope s.having
  pure { grouping, having, label := s.label }

/-- A selected metric defines the name that it is given. -/
def Select.resolve (r : Resolution) (scope : Scope) (s : Select) :
    Reporting (Aggregate.Metric Float) := do
  let metric ← s.metric.resolve r scope
  pure (match s.label with
    | some name => .named metric name
    | none => metric)

def resolveFilter (r : Resolution) (scope : Scope) :
    Option DocFilter → Reporting (Option Doc.Filter)
  | none => pure none
  | some f => do pure (some (← f.resolve r scope))

/-- The plan of a query with the resolver of its names, at a time by the clock of the queries. -/
def resolve (catalog : Catalog) (settings : Settings) (now : Timestamp) (q : Query) :
    Reporting (Plan Float × Resolver) := do
  let sources ← q.sources.mapM (From.source now)
  let metricNames := Names.ofList (q.selects.filterMap (·.label))
  let (resolver, sources) ← Resolver.ofSources catalog sources metricNames
  let r := Resolution.ofResolver settings resolver
  let scope := resolver.scope
  let filter ← resolveFilter r scope q.filter
  let stages ← q.stages.mapM (Stage.resolve r scope)
  let selects ← q.selects.mapM (Select.resolve r scope)
  pure ({ sources, filter, stages, selects, formats := q.selects.map (·.format),
          options := if settings.isLegacy then ["legacy"] else [],
          rowLimit := q.limit.orElse fun _ => settings.rowLimit }, resolver)

structure Planned where
  plan : Plan Float
  resolver : Resolver
  found : Findings

/-- Plan a query at a moment. A time that cannot be counted breaks the planning off. -/
def plan (catalog : Catalog) (settings : Settings) (now : Timestamp) (q : Query) :
    CompileM Planned := do
  let now := now.withOffset (← clockOffset settings)
  if !q.sources.all (From.isCountable now) then .error .spanTooLong
  let ((plan, resolver), found) := (q.resolve catalog settings now).run {}
  pure { plan, resolver, found }

end Groupwise.Query
