/-!
# Errors and findings

A compilation stops at an error. Problems of a query that do not stop it at once are collected as
findings, so that one compilation reports all of them.
-/
namespace Groupwise

/-- Why a query cannot be compiled. -/
inductive CompileError where
  | parse (reason : String)
  | unknownDataset (name : String)
  | unknownField (name : String)
  | invalid (reason : String)
  | validation (problems : List String)
  /-- A construct has no form for the requested use. -/
  | unsupported (reason : String)
  | catalog (reason : String)
  /-- A stage of the compilation was handed something it never should be. -/
  | internal (reason : String)
  | execution (reason : String)
  /-- A span of time is too long to be counted, or leads off the calendar, and the compilation
  breaks off. -/
  | spanTooLong
  deriving Repr, DecidableEq, Inhabited

def CompileError.message : CompileError → String
  | .parse reason => "Parse error: " ++ reason
  | .unknownDataset name => "Unknown dataset: " ++ name
  | .unknownField name => "Unknown field: " ++ name
  | .invalid reason => "Invalid query: " ++ reason
  | .validation problems => "Validation failed: " ++ "; ".intercalate problems
  | .unsupported reason => "Unsupported operation: " ++ reason
  | .catalog reason => "Catalog error: " ++ reason
  | .internal reason => "Internal error: " ++ reason
  | .execution reason => "Execution error: " ++ reason
  | .spanTooLong => "Span of time out of bounds"

abbrev CompileM := Except CompileError

/-- Collected errors and warnings, each noted once, in the order in which they were found. -/
structure Findings where
  errors : List String := []
  warnings : List String := []
  deriving Repr, DecidableEq, Inhabited

namespace Findings

def empty : Findings := {}

/-- Append a message unless it is there already. -/
def note (message : String) (messages : List String) : List String :=
  if messages.contains message then messages else messages ++ [message]

def error (found : Findings) (message : String) : Findings :=
  { found with errors := note message found.errors }

def warn (found : Findings) (message : String) : Findings :=
  { found with warnings := note message found.warnings }

def hasErrors (found : Findings) : Bool := !found.errors.isEmpty

def merge (found other : Findings) : Findings :=
  other.warnings.foldl warn (other.errors.foldl error found)

/-- The warnings, or all errors if there are any. -/
def toExcept (found : Findings) : CompileM (List String) :=
  if found.errors.isEmpty then .ok found.warnings else .error (.validation found.errors)

end Findings

abbrev Reporting := StateM Findings

def report (message : String) : Reporting Unit := modify (·.error message)

def remark (message : String) : Reporting Unit := modify (·.warn message)

end Groupwise
