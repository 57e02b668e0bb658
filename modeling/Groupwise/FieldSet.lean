import Groupwise.Error
import Groupwise.Json.Basic
import Groupwise.Names
import Groupwise.Text.Outline

/-!
# Fields across datasets

A field of a query stands for a physical field in each dataset of its scope. The physical names
differ when a dataset has another name for the field.
-/
namespace Groupwise

def Names.outline (names : Names) : Outline := .set (names.map .text)

/-- A field resolved in one or more datasets. -/
structure FieldSet where
  names : Dictionary String
  /-- Whether the scope is narrower than that of the enclosing query. -/
  restricted : Bool := false
  deriving Repr, DecidableEq, Inhabited

namespace FieldSet

/-- Two field sets are the same when their names are; how the scope came about plays no part. -/
instance : BEq FieldSet where
  beq a b := a.names == b.names

def single (dataset field : String) : FieldSet := { names := [(dataset, field)] }

def uniform (datasets : List String) (field : String) : FieldSet :=
  { names := Dictionary.ofList (datasets.map fun d => (d, field)) }

def datasets (f : FieldSet) : Names := f.names.keys

def contains (f : FieldSet) (dataset : String) : Bool := (f.names.find? dataset).isSome

def nameIn (f : FieldSet) (dataset : String) : CompileM String :=
  match f.names.find? dataset with
  | some name => .ok name
  | none => .error (.unknownDataset dataset)

/-- The physical name on which all datasets agree. -/
def uniformName? (f : FieldSet) : Option String :=
  match f.names with
  | [] => none
  | (_, first) :: rest => if rest.all (·.2 == first) then some first else none

def namesByDataset (f : FieldSet) : String :=
  "\x7b" ++ ", ".intercalate (f.names.map fun e => e.1 ++ "." ++ e.2) ++ "\x7d"

def onlyName (f : FieldSet) : CompileM String :=
  if f.names.isEmpty then .error (.invalid "Empty field set")
  else match f.uniformName? with
    | some name => .ok name
    | none =>
      .error (.invalid
        ("Field has different names in different datasets: " ++ f.namesByDataset))

/-- Narrow to datasets that must be in scope already. -/
def subset (f : FieldSet) (datasets : Names) : CompileM FieldSet := do
  pure { names := ← Dictionary.collect datasets f.nameIn, restricted := true }

def display (f : FieldSet) : String := f.uniformName?.getD f.namesByDataset

def outline (f : FieldSet) : Outline :=
  .record "FieldSet" [("dataset_to_field", .dictionary .text f.names),
    ("restricted", .bool f.restricted)]

def toJson (f : FieldSet) : Json := .dictionary .string f.names

/-- A field must have a name in each dataset of the scope. -/
def checkScope (scope : Names) (f : FieldSet) : CompileM Unit :=
  if scope.all f.contains then .ok ()
  else .error (.invalid ("Field " ++ f.display ++ " is not defined for every dataset in scope " ++
    scope.outline.compact))

end FieldSet

end Groupwise
