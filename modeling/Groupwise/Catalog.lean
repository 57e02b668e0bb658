import Groupwise.Error
import Groupwise.Json.Decode
import Groupwise.Names

/-!
# Catalogs

A catalog describes the datasets that queries may name: their integer and string fields, other
names for fields, and dimensions, which are names for expressions. Names are looked up exactly
first and then without regard to the case of letters.
-/
namespace Groupwise

/-- The item of exactly this name, or else the only one that differs in letter case alone. -/
def seek {α : Type} (nameOf : α → String) (name : String) (items : List α) : Except String α :=
  match items.find? (nameOf · == name) with
  | some item => .ok item
  | none =>
    match items.filter (fun item => sameIgnoringCase (nameOf item) name) with
    | [item] => .ok item
    | [] => .error ("Dataset not found or not included in query: \"" ++ name ++ "\"")
    | many =>
      .error ("Multiple datasets match, and none are an exact match: [" ++
        ", ".intercalate (many.map nameOf) ++ "], seeking \"" ++ name ++ "\"")

/-- What is known of one dataset. -/
structure Dataset where
  name : String
  intFields : List String := []
  stringFields : List String := []
  /-- Physical names under their aliases. -/
  fieldAliases : Dictionary String := []
  /-- Expressions under their names. -/
  dimensions : Dictionary String := []
  deriving Repr, DecidableEq, Inhabited

namespace Dataset

/-- A field by its exact name, or else by its name in any letter case. -/
def findField? (fields : List String) (name : String) : Option String :=
  match fields.find? (· == name) with
  | some field => some field
  | none => fields.find? (sameIgnoringCase · name)

def intField? (d : Dataset) (name : String) : Option String := findField? d.intFields name

def stringField? (d : Dataset) (name : String) : Option String := findField? d.stringFields name

def hasIntField (d : Dataset) (name : String) : Bool := (d.intField? name).isSome

def hasStringField (d : Dataset) (name : String) : Bool := (d.stringField? name).isSome

def hasField (d : Dataset) (name : String) : Bool := d.hasIntField name || d.hasStringField name

/-- The entry of a dictionary whose name agrees up to letter case. -/
def findEntry? (entries : List (String × String)) (name : String) : Option String :=
  (List.find? (fun e => sameIgnoringCase e.1 name) entries).map (·.2)

def aliasTarget? (d : Dataset) (name : String) : Option String := findEntry? d.fieldAliases name

def dimension? (d : Dataset) (name : String) : Option String := findEntry? d.dimensions name

def toJson (d : Dataset) : Json :=
  .object [("name", .string d.name), ("int_fields", .strings d.intFields),
    ("string_fields", .strings d.stringFields),
    ("field_aliases", .dictionary .string d.fieldAliases),
    ("dimensions", .dictionary .string d.dimensions)]

def decoder : Json.Decoder Dataset :=
  .record { name := "" } [
    .needed "name" .string fun name d => { d with name },
    .optional "int_fields" (.list .string) fun intFields d => { d with intFields },
    .optional "string_fields" (.list .string) fun stringFields d => { d with stringFields },
    .optional "field_aliases" (.dictionary .string) fun entries d =>
      { d with fieldAliases := .ofList entries },
    .optional "dimensions" (.dictionary .string) fun entries d =>
      { d with dimensions := .ofList entries }]

def ofJson? (j : Json) : Option Dataset := decoder.ofJson? j

end Dataset

/-- All known datasets. -/
structure Catalog where
  datasets : List Dataset := []
  deriving Repr, DecidableEq, Inhabited

namespace Catalog

/-- Add a dataset, replacing one of the same name. -/
def insert (c : Catalog) (d : Dataset) : Catalog where
  datasets := c.datasets.filter (·.name != d.name) ++ [d]

def find? (c : Catalog) (name : String) : Option Dataset := c.datasets.find? (·.name == name)

/-- The dataset of exactly this name, or else the only one that differs in letter case alone. -/
def resolve (c : Catalog) (name : String) : Except String Dataset := seek Dataset.name name c.datasets

def toJson (c : Catalog) : Json := .object [("datasets", .list Dataset.toJson c.datasets)]

def decoder : Json.Decoder Catalog :=
  .record {} [.optional "datasets" (.list Dataset.decoder) fun datasets _ => { datasets }]

def ofJson? (j : Json) : Option Catalog := decoder.ofJson? j

end Catalog

/-- The fields of the datasets of a query, under the names that the query gives to the datasets. -/
structure Schema where
  datasets : Dictionary Dataset := []

namespace Schema

def containsDataset (s : Schema) (dataset : String) : Bool := (s.datasets.find? dataset).isSome

def containsIntField (s : Schema) (dataset field : String) : Bool :=
  (s.datasets.find? dataset).any (·.hasIntField field)

def containsStringField (s : Schema) (dataset field : String) : Bool :=
  (s.datasets.find? dataset).any (·.hasStringField field)

def containsField (s : Schema) (dataset field : String) : Bool :=
  s.containsIntField dataset field || s.containsStringField dataset field

/-- The report of a field that a dataset lacks. -/
def missingField (dataset field context : String) : String :=
  "Field not found: \"" ++ field ++ "\" in dataset \"" ++ dataset ++ "\" (in " ++ context ++ ")"

/-- The report of a field that a dataset lacks in the expected type. -/
def missingTyped (type dataset field context : String) : String :=
  missingField dataset field context ++ ". Expected " ++ type ++ " field \"" ++ field ++
    "\" in dataset \"" ++ dataset ++ "\""

/-- Report a field that is missing in both types. -/
def checkField (s : Schema) (dataset field context : String) (found : Findings) : Findings :=
  if s.containsField dataset field then found
  else found.error (missingField dataset field context)

def checkIntField (s : Schema) (dataset field context : String) (found : Findings) : Findings :=
  if s.containsIntField dataset field then found
  else found.error (missingTyped "int" dataset field context)

def checkStringField (s : Schema) (dataset field context : String) (found : Findings) : Findings :=
  if s.containsStringField dataset field then found
  else found.error (missingTyped "string" dataset field context)

end Schema

end Groupwise
