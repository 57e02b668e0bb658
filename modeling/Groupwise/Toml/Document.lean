import Groupwise.Toml.Scalar

/-!
# Settings files

A file consists of entries and of headers, which say into which table the entries below them go. A
key with dots leads into tables inside the current one. No key may be given twice, and a table that
was complete once cannot be reopened.
-/
namespace Groupwise.Toml

open Scanner (char orElse)

/-- How a table came about. -/
inductive Origin where
  | header
  | passage
  | dottedKey
  deriving Repr, DecidableEq, Inhabited

/-- What stands under a key while a file is read. -/
inductive Node where
  | value (value : Json)
  | table (origin : Origin) (entries : List (String × Node))
  /-- A list of tables, each with a header of its own. -/
  | tables (items : List (List (String × Node)))

namespace Node

def find? (key : String) : List (String × Node) → Option Node
  | [] => none
  | (name, node) :: rest => if name == key then some node else find? key rest

def replace (key : String) (new : Node) : List (String × Node) → List (String × Node)
  | [] => []
  | (name, node) :: rest =>
    if name == key then (name, new) :: rest else (name, node) :: replace key new rest

/-- Give a key, perhaps with dots, its value. Tables on the way must be open to dotted keys. -/
def enter (value : Json) : List String → List (String × Node) → Option (List (String × Node))
  | [], _ => none
  | [key], entries =>
    match find? key entries with
    | none => some (entries ++ [(key, .value value)])
    | some _ => none
  | key :: next :: path, entries =>
    match find? key entries with
    | none => do
      some (entries ++ [(key, .table .dottedKey (← enter value (next :: path) []))])
    | some (.table .dottedKey inner) => do
      some (replace key (.table .dottedKey (← enter value (next :: path) inner)) entries)
    | some (.table .passage inner) =>
      if path.isEmpty then none else do
        some (replace key (.table .passage (← enter value (next :: path) inner)) entries)
    | some (.tables items) =>
      if path.isEmpty then none else do
        let last ← items.getLast?
        some (replace key (.tables (items.dropLast ++ [← enter value (next :: path) last])) entries)
    | some _ => none

/-- Change the table to which a path of headers leads. Of a list of tables the last one counts. -/
def within (change : List (String × Node) → Option (List (String × Node))) :
    List String → List (String × Node) → Option (List (String × Node))
  | [], entries => change entries
  | key :: path, entries =>
    match find? key entries with
    | none => do some (entries ++ [(key, .table .passage (← within change path []))])
    | some (.table origin inner) => do
      some (replace key (.table origin (← within change path inner)) entries)
    | some (.tables items) => do
      let last ← items.getLast?
      some (replace key (.tables (items.dropLast ++ [← within change path last])) entries)
    | some (.value _) => none

def openTable (key : String) (entries : List (String × Node)) : Option (List (String × Node)) :=
  match find? key entries with
  | none => some (entries ++ [(key, .table .header [])])
  | some (.table .passage inner) => some (replace key (.table .header inner) entries)
  | some _ => none

/-- Start another table of a list. -/
def openItem (key : String) (entries : List (String × Node)) : Option (List (String × Node)) :=
  match find? key entries with
  | none => some (entries ++ [(key, .tables [[]])])
  | some (.tables items) => some (replace key (.tables (items ++ [[]])) entries)
  | some _ => none

mutual

def toJson : Node → Json
  | .value v => v
  | .table _ entries => .object (toMembers entries)
  | .tables items => .array (toItems items)

def toMembers : List (String × Node) → List (String × Json)
  | [] => []
  | (key, node) :: rest => (key, toJson node) :: toMembers rest

def toItems : List (List (String × Node)) → List Json
  | [] => []
  | entries :: rest => .object (toMembers entries) :: toItems rest

end

end Node

/-! ## Keys, arrays and tables inside lines -/

def isBareChar (c : Char) : Bool := c.isAlphanum || c = '_' || c = '-'

def bareKey : Scanner String := fun cs =>
  (Scanner.run1 isBareChar cs).map fun (found, rest) => (String.ofList found, rest)

def keyPart : Scanner String := fun cs => do
  let (key, rest) ← orElse basicString (orElse literalString bareKey) (skipBlanks cs)
  some (key, skipBlanks rest)

/-- How deep values may be nested, and how many parts a key may have. -/
def depthLimit : Nat := 79

def key : Scanner (List String) := fun cs => do
  let (first, rest) ← keyPart cs
  let next : Scanner String := fun cs => do keyPart (← char '.' cs).2
  let (more, rest) := Scanner.many next rest.length rest
  if more.length < depthLimit then some (first :: more, rest) else none

def comment (cs : List Char) : List Char :=
  match cs with
  | '#' :: rest => rest.dropWhile isLineChar
  | cs => cs

def skipVoid (cs : List Char) : List Char :=
  let line : Scanner Unit := fun cs => newline (comment (skipBlanks cs))
  skipBlanks (Scanner.many line cs.length cs).2

/-- The items of an array up to its end; the fuel is the number of characters. -/
def items (value : Scanner Json) : Nat → Scanner (List Json)
  | 0, _ => none
  | fuel + 1, cs =>
    match skipVoid cs with
    | ']' :: rest => some ([], rest)
    | cs => do
      let (item, rest) ← value cs
      match skipVoid rest with
      | ',' :: rest => do
        let (more, rest) ← items value fuel rest
        some (item :: more, rest)
      | ']' :: rest => some ([item], rest)
      | _ => none

def keyValue (value : Scanner Json) : Scanner (List String × Json) := fun cs => do
  let (path, rest) ← key cs
  let ((), rest) ← char '=' rest
  let (v, rest) ← value (skipBlanks rest)
  some ((path, v), skipBlanks rest)

def inlineEntries (value : Scanner Json) :
    Nat → List (String × Node) → Scanner (List (String × Node))
  | 0, _, _ => none
  | fuel + 1, entries, cs => do
    let ((path, v), rest) ← keyValue value cs
    let entries ← Node.enter v path entries
    match rest with
    | ',' :: rest => inlineEntries value fuel entries rest
    | '\x7d' :: rest => some (entries, rest)
    | _ => none

def inlineTable (value : Scanner Json) : Scanner Json := fun cs =>
  match skipBlanks cs with
  | '\x7d' :: rest => some (.object [], rest)
  | cs => do
    let (entries, rest) ← inlineEntries value (cs.length + 1) [] cs
    some (.object (Node.toMembers entries), rest)

/-- A value with so many levels of arrays and tables at most. -/
def value : Nat → Scanner Json
  | 0, cs => scalar cs
  | depth + 1, cs =>
    match cs with
    | '[' :: rest =>
      (items (value depth) (rest.length + 1) rest).map fun (found, rest) => (.array found, rest)
    | '\x7b' :: rest => inlineTable (value depth) rest
    | cs => scalar cs

/-! ## Lines -/

inductive Line where
  | empty
  | entry (path : List String) (value : Json)
  | table (path : List String)
  | item (path : List String)

/-- The end of a line, perhaps behind a comment. -/
def lineEnd (cs : List Char) : Option (List Char) :=
  match comment (skipBlanks cs) with
  | [] => some []
  | cs => (newline cs).map (·.2)

def line (cs : List Char) : Option (Line × List Char) :=
  match skipBlanks cs with
  | [] => some (.empty, [])
  | '#' :: rest => do some (.empty, ← lineEnd ('#' :: rest))
  | '\n' :: rest => some (.empty, rest)
  | '\r' :: '\n' :: rest => some (.empty, rest)
  | '[' :: '[' :: rest => do
    let (path, rest) ← key rest
    let ((), rest) ← Scanner.word [']', ']'] rest
    some (.item path, ← lineEnd rest)
  | '[' :: rest => do
    let (path, rest) ← key rest
    let ((), rest) ← char ']' rest
    some (.table path, ← lineEnd rest)
  | cs => do
    let ((path, v), rest) ← keyValue (value depthLimit) cs
    some (.entry path v, ← lineEnd rest)

structure State where
  entries : List (String × Node) := []
  current : List String := []

def State.add (s : State) : Line → Option State
  | .empty => some s
  | .entry path v => do
    some { s with entries := ← Node.within (Node.enter v path) s.current s.entries }
  | .table path => do
    let name ← path.getLast?
    some { entries := ← Node.within (Node.openTable name) path.dropLast s.entries, current := path }
  | .item path => do
    let name ← path.getLast?
    some { entries := ← Node.within (Node.openItem name) path.dropLast s.entries, current := path }

/-- Read all lines; the fuel is the number of characters. -/
def State.addAll : Nat → State → List Char → Option State
  | _, s, [] => some s
  | 0, _, _ => none
  | fuel + 1, s, cs => do
    let (found, rest) ← line cs
    (← s.add found).addAll fuel rest

def read? (text : String) : Option Json := do
  let cs := match text.toList with
    | '\ufeff' :: rest => rest
    | cs => cs
  let s ← State.addAll cs.length {} cs
  some (.object (Node.toMembers s.entries))

end Groupwise.Toml
