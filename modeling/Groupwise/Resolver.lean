import Groupwise.Catalog
import Groupwise.FieldSet
import Groupwise.Plan

/-!
# Resolving names

A query names datasets and fields as its author typed them. A resolver knows the datasets that the
query reads and turns typed names into fields. A name that cannot be resolved is reported and
replaced by a stand-in, so that one compilation reports all unknown names.
-/
namespace Groupwise

/-- The type of a field across the datasets that have it. -/
inductive FieldType where
  | integer
  | string
  | conflicted
  deriving Repr, DecidableEq, Inhabited

namespace FieldType

/-- The type of a field that may be found among the integer fields and among the string fields. A
field that is in neither counts as a string. -/
def ofPresence (isInt isString : Bool) : FieldType :=
  match isInt, isString with
  | true, true => .conflicted
  | true, false => .integer
  | false, _ => .string

def outline : FieldType → Outline
  | .integer => .atom "Integer"
  | .string => .atom "String"
  | .conflicted => .atom "Conflicted"

end FieldType

namespace Resolver

/-- Stands in for a dataset that could not be resolved. -/
def failedDataset : String := "FAILED_TO_RESOLVE_D"

def failedField : String := "FAILED_TO_RESOLVE_F"

/-- The entry under a name, or else the first one whose name differs in letter case alone. -/
def findLoosely? {α : Type} (name : String) (entries : Dictionary α) : Option α :=
  match entries.find? name with
  | some value => some value
  | none => (List.find? (fun e => sameIgnoringCase e.1 name) entries).map (·.2)

structure Entry where
  dataset : Dataset
  /-- Physical fields under the names that the query gives them. -/
  aliases : Dictionary String := []
  isKnown : Bool
  deriving Repr, DecidableEq, Inhabited

namespace Entry

/-- Follow the query's own aliases first and then those of the catalog. -/
def target (e : Entry) (typed : String) : String :=
  ((findLoosely? typed e.aliases).orElse fun _ => e.dataset.aliasTarget? typed).getD typed

/-- The physical name of a field. Nothing is known of the fields of an unknown dataset, so there
any name will do. -/
def field? (e : Entry) (typed : String) : Option String :=
  if !e.isKnown then some (e.target typed)
  else (e.dataset.intField? (e.target typed)).orElse fun _ => e.dataset.stringField? (e.target typed)

/-- The expression that a name stands for, unless the query gives the name to a field. -/
def dimension? (e : Entry) (typed : String) : Option String :=
  match findLoosely? typed e.aliases with
  | some _ => none
  | none => e.dataset.dimension? typed

end Entry

end Resolver

/-- The datasets of one query under the names that the query gives them. -/
structure Resolver where
  entries : Dictionary Resolver.Entry := []
  metricNames : Names := []
  deriving Repr, DecidableEq, Inhabited

namespace Resolver

/-- Look up a source in the catalog. The source takes over the catalog's spelling, and its aliases
lead to physical fields. -/
def lookUp (catalog : Catalog) (source : Source) : Reporting (Source × Entry) := do
  let (dataset, isKnown) ← match catalog.resolve source.dataset with
    | .ok dataset => pure (dataset, true)
    | .error message => do
      report message
      pure ({ name := source.dataset }, false)
  let aliases := source.fieldAliases.map fun e => (e.1, (dataset.aliasTarget? e.2).getD e.2)
  pure ({ source with dataset := dataset.name, fieldAliases := aliases },
    { dataset, aliases, isKnown })

def addSource (catalog : Catalog) (resolver : Resolver) (source : Source) :
    Reporting (Resolver × Source) := do
  let (source, entry) ← lookUp catalog source
  if (resolver.entries.find? source.scopeName).isSome then
    report ("Dataset name used twice: \"" ++ source.scopeName ++ "\"")
  pure ({ resolver with entries := resolver.entries.insert source.scopeName entry }, source)

def addSources (catalog : Catalog) (resolver : Resolver) :
    List Source → Reporting (Resolver × List Source)
  | [] => pure (resolver, [])
  | source :: rest => do
    let (resolver, source) ← resolver.addSource catalog source
    let (resolver, rest) ← resolver.addSources catalog rest
    pure (resolver, source :: rest)

def ofSources (catalog : Catalog) (sources : List Source) (metricNames : Names) :
    Reporting (Resolver × List Source) :=
  addSources catalog { metricNames } sources

def names (r : Resolver) : Names := r.entries.keys

def schema (r : Resolver) : Schema where
  datasets := (List.filter (fun e => e.2.isKnown) r.entries).map fun e => (e.1, e.2.dataset)

/-- The metric that a typed name means: the exact one, or else the only one that differs in letter
case alone. -/
def metricName? (r : Resolver) (typed : String) : Option String :=
  (seek id typed r.metricNames).toOption

def dimensionCount (r : Resolver) : Nat :=
  (List.map (fun (e : String × Entry) => e.2.dataset.dimensions.length) r.entries).foldl (· + ·) 0

end Resolver

/-- The part of a query's datasets in which names are resolved. -/
structure Scope where
  resolver : Resolver
  names : Names
  restricted : Bool := false
  deriving Repr, DecidableEq, Inhabited

def Resolver.scope (r : Resolver) : Scope where
  resolver := r
  names := r.names

namespace Scope

def narrow (s : Scope) (names : Names) : Scope where
  resolver := s.resolver
  names := names
  restricted := names != s.resolver.names

def dataset (s : Scope) (typed : String) : Reporting String :=
  match seek id typed s.names with
  | .ok name => pure name
  | .error message => do
    report message
    pure Resolver.failedDataset

def fieldIn (s : Scope) (typed dataset : String) : Except String String :=
  if (s.resolver.metricName? typed).isSome then
    .error ("Metric alias cannot be used as a field: \"" ++ typed ++ "\"")
  else match s.resolver.entries.find? dataset with
    | none => .error ("Cannot resolve field for unresolved dataset: \"" ++ typed ++ "\"")
    | some entry =>
      match entry.field? typed with
      | some name => .ok name
      | none => .error ("Field not found in dataset \"" ++ dataset ++ "\": \"" ++ typed ++ "\"")

/-- The physical name of a field in each dataset of the scope. -/
def field (s : Scope) (typed : String) : Reporting FieldSet := do
  let names ← s.names.mapM fun dataset => do
    match s.fieldIn typed dataset with
    | .ok name => pure (dataset, name)
    | .error message => do
      report message
      pure (dataset, Resolver.failedField)
  pure { names, restricted := s.restricted }

def dimension? (s : Scope) (dataset typed : String) : Option String := do
  (← s.resolver.entries.find? dataset).dimension? typed

def hasDimension (s : Scope) (typed : String) : Bool :=
  s.names.any fun dataset => (s.dimension? dataset typed).isSome

def isAmong (s : Scope) (has : Dataset → String → Bool) (field : FieldSet) : Bool :=
  List.any field.names fun (dataset, name) =>
    dataset != Resolver.failedDataset && name != Resolver.failedField &&
      (s.resolver.entries.find? dataset).any fun entry => has entry.dataset name

def fieldType (s : Scope) (field : FieldSet) : FieldType :=
  .ofPresence (s.isAmong Dataset.hasIntField field) (s.isAmong Dataset.hasStringField field)

/-- Whether a field is of integer type wherever its type is known. -/
def isIntField (s : Scope) (field : FieldSet) : Bool := s.fieldType field == .integer

end Scope

end Groupwise
