import Groupwise.CacheKey
import Groupwise.Plan.Schedule
import Groupwise.Query.Planning

/-!
# Compilation

A query is parsed and planned, its plan is turned into commands, and the commands are checked
against the catalog. Compilation fails if anything was found to be wrong on the way.
-/
namespace Groupwise

structure Compiled where
  commands : List (Command Float)
  warnings : List String
  sources : List Source
  rowLimit : Option Nat
  cacheKey : CacheKey

namespace Compiled

/-- The commands as a document. -/
def document (c : Compiled) : Json := .list Command.toJson c.commands

end Compiled

def Command.checkAll (schema : Schema) (scope : Names) (commands : List (Command Float))
    (found : Findings) : CompileM Findings :=
  commands.foldlM (fun found c => c.check schema scope found) found

namespace Query

/-- Compile a parsed query. -/
def compile (catalog : Catalog) (settings : Settings) (now : Timestamp) (q : Query) :
    CompileM Compiled := do
  let planned ← q.plan catalog settings now
  let _ ← planned.found.toExcept
  let plan := planned.plan
  let commands ← (← plan.program).commands
  let found ← Command.checkAll planned.resolver.schema plan.scope commands planned.found
  let warnings ← found.toExcept
  pure {
    commands, warnings, sources := plan.sources, rowLimit := plan.rowLimit
    cacheKey := .ofInput {
      commands := (Json.list Command.toJson commands).compact
      ranges := plan.sources.map (·.range), options := plan.options, rowLimit := plan.rowLimit
      isLegacy := settings.isLegacy, resultFormat := settings.resultFormat } }

def compileText (catalog : Catalog) (settings : Settings) (now : Timestamp) (text : String) :
    Except QueryError Compiled := do
  let q ← parse text
  match q.compile catalog settings now with
  | .ok compiled => .ok compiled
  | .error e => .error (.compile e)

end Query

end Groupwise
