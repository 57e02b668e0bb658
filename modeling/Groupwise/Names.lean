/-!
# Sets of names and dictionaries

Sets and dictionaries are lists in increasing order without repetition, so that equal ones are
equal lists and every walk over them follows the order of the names by code point.
-/
namespace Groupwise

/-- Put an element where it belongs in an increasing list, unless it is there already. -/
def orderedInsert {α : Type} (less : α → α → Bool) (a : α) : List α → List α
  | [] => [a]
  | b :: rest =>
    if less a b then a :: b :: rest
    else if less b a then b :: orderedInsert less a rest
    else b :: rest

/-- The elements of a list in increasing order, without repetition. -/
def orderedSet {α : Type} (less : α → α → Bool) (items : List α) : List α :=
  items.foldl (fun set a => orderedInsert less a set) []

/-- A set of names in increasing order. -/
abbrev Names := List String

namespace Names

def insert (name : String) (names : Names) : Names :=
  orderedInsert (fun a b => decide (a < b)) name names

def ofList (items : List String) : Names :=
  items.foldl (fun names name => insert name names) []

def union (a b : Names) : Names := b.foldl (fun names name => insert name names) a

def subset (a b : Names) : Bool := a.all b.contains

end Names

/-- A map from names to values, in increasing order of the names. -/
abbrev Dictionary (α : Type) := List (String × α)

namespace Dictionary

variable {α β : Type}

def find? (name : String) : Dictionary α → Option α
  | [] => none
  | (key, value) :: rest => if key == name then some value else find? name rest

def insert (name : String) (value : α) : Dictionary α → Dictionary α
  | [] => [(name, value)]
  | (key, old) :: rest =>
    if name < key then (name, value) :: (key, old) :: rest
    else if name == key then (name, value) :: rest
    else (key, old) :: insert name value rest

/-- Enter the pairs in order; a later value replaces an earlier one under the same name. -/
def ofList (entries : List (String × α)) : Dictionary α :=
  entries.foldl (fun d e => insert e.1 e.2 d) []

def keys (d : Dictionary α) : Names := d.map (·.1)

/-- A value for each name of a set, the first failure winning. -/
def collect {ε : Type} (names : Names) (f : String → Except ε α) : Except ε (Dictionary α) :=
  names.mapM fun name => do pure (name, ← f name)

end Dictionary

/-- Equality of names up to the case of the letters A to Z. -/
def sameIgnoringCase (a b : String) : Bool :=
  a.toList.map Char.toLower == b.toList.map Char.toLower

end Groupwise
