import Groupwise.Text.Quoted

/-!
# Outlines

An outline is the structural listing of a value: names with their parts. It is written either on
one line or with one part on each line, indented by four spaces.
-/
namespace Groupwise

/-- The structure of a value as a listing shows it. -/
inductive Outline where
  /-- Text that stands for itself. -/
  | atom (text : String)
  /-- A name with named parts. -/
  | record (name : String) (parts : List (String × Outline))
  /-- A name with parts in order; an empty name gives a bare tuple. -/
  | tuple (name : String) (parts : List Outline)
  | list (items : List Outline)
  | set (items : List Outline)
  | map (entries : List (Outline × Outline))

namespace Outline

/-- Quoted text. -/
def text (s : String) : Outline := .atom (Text.quoted s)

def bool (b : Bool) : Outline := .atom (if b then "true" else "false")

def nat (n : Nat) : Outline := .atom (toString n)

def int (n : Int) : Outline := .atom (toString n)

def int64 (n : Int64) : Outline := .atom (toString n.toInt)

/-- A value that may be missing. -/
def option {α : Type} (f : α → Outline) : Option α → Outline
  | none => .atom "None"
  | some a => .tuple "Some" [f a]

/-- Entries of a map with textual keys. -/
def dictionary {α : Type} (f : α → Outline) (entries : List (String × α)) : Outline :=
  .map (entries.map fun e => (text e.1, f e.2))

mutual

/-- The listing on one line. -/
def compact : Outline → String
  | .atom text => text
  | .record name parts => name ++ " \x7b " ++ compactFields true parts ++ " \x7d"
  | .tuple name parts => name ++ "(" ++ compactItems true parts ++ ")"
  | .list items => "[" ++ compactItems true items ++ "]"
  | .set items => "\x7b" ++ compactItems true items ++ "\x7d"
  | .map entries => "\x7b" ++ compactEntries true entries ++ "\x7d"

def compactItems (first : Bool) : List Outline → String
  | [] => ""
  | item :: rest => (if first then "" else ", ") ++ compact item ++ compactItems false rest

def compactFields (first : Bool) : List (String × Outline) → String
  | [] => ""
  | (name, value) :: rest =>
    (if first then "" else ", ") ++ name ++ ": " ++ compact value ++ compactFields false rest

def compactEntries (first : Bool) : List (Outline × Outline) → String
  | [] => ""
  | (key, value) :: rest =>
    (if first then "" else ", ") ++ compact key ++ ": " ++ compact value ++
      compactEntries false rest

end

mutual

/-- The listing with one part on each line; `margin` precedes every line but the first. -/
def indented (margin : String) : Outline → String
  | .atom text => text
  | .record name parts =>
    name ++ " \x7b\n" ++ indentedFields (margin ++ "    ") parts ++ margin ++ "\x7d"
  | .tuple name parts =>
    name ++ "(\n" ++ indentedItems (margin ++ "    ") parts ++ margin ++ ")"
  | .list [] => "[]"
  | .list (item :: items) =>
    "[\n" ++ indentedItems (margin ++ "    ") (item :: items) ++ margin ++ "]"
  | .set [] => "\x7b\x7d"
  | .set (item :: items) =>
    "\x7b\n" ++ indentedItems (margin ++ "    ") (item :: items) ++ margin ++ "\x7d"
  | .map [] => "\x7b\x7d"
  | .map (entry :: entries) =>
    "\x7b\n" ++ indentedEntries (margin ++ "    ") (entry :: entries) ++ margin ++ "\x7d"

def indentedItems (margin : String) : List Outline → String
  | [] => ""
  | item :: rest => margin ++ indented margin item ++ ",\n" ++ indentedItems margin rest

def indentedFields (margin : String) : List (String × Outline) → String
  | [] => ""
  | (name, value) :: rest =>
    margin ++ name ++ ": " ++ indented margin value ++ ",\n" ++ indentedFields margin rest

def indentedEntries (margin : String) : List (Outline × Outline) → String
  | [] => ""
  | (key, value) :: rest =>
    margin ++ indented margin key ++ ": " ++ indented margin value ++ ",\n" ++
      indentedEntries margin rest

end

end Outline

end Groupwise
