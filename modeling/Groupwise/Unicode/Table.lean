import Groupwise.Text.CodePoint

/-!
# Tables of character properties

A property that holds or not is written as a list of ranges, such as `41-5a aa`. A property with
many values is written as a list of runs, such as `41Lu 5bPs`, each of which begins at its code
point and lasts until the next one. Numbers are hexadecimal, and the words of a table are separated
by blanks.
-/
namespace Groupwise.Unicode

open Text (CodePointSet)

def isTableDigit (c : Char) : Bool := c.isDigit || ('a' ≤ c && c ≤ 'f')

def tableDigit (c : Char) : Nat :=
  if c.isDigit then c.toNat - '0'.toNat else c.toNat - 'a'.toNat + 10

def tableNumber (digits : List Char) : Nat :=
  digits.foldl (fun n c => 16 * n + tableDigit c) 0

def tableWords (lines : List String) : List (List Char) :=
  lines.flatMap fun line => (line.splitOn " ").map (·.toList)

/-- A number at the start of a word, and what follows it. -/
def splitNumber (word : List Char) : Nat × List Char :=
  (tableNumber (word.takeWhile isTableDigit), word.dropWhile isTableDigit)

def readRange (word : List Char) : Nat × Nat :=
  match splitNumber word with
  | (first, '-' :: last) => (first, tableNumber last)
  | (first, _) => (first, first)

/-- The set that a table of ranges, in increasing order, stands for. -/
def setOfTable (lines : List String) : CodePointSet :=
  ⟨((tableWords lines).map readRange).toArray⟩

/-- Runs of code points with one value, each given by its first code point. -/
abbrev Runs (α : Type) := List (Nat × α)

def runsOfTable {α : Type} (value : String → α) (lines : List String) : Runs α :=
  (tableWords lines).map fun word =>
    let (first, rest) := splitNumber word
    (first, value (String.ofList rest))

/-- The ranges of the runs whose values are wanted. -/
def Runs.ranges {α : Type} (wanted : α → Bool) : Runs α → List (Nat × Nat)
  | [] => []
  | [(first, value)] => if wanted value then [(first, CodePointSet.greatest)] else []
  | (first, value) :: (next, value') :: rest =>
    if wanted value then (first, next - 1) :: ranges wanted ((next, value') :: rest)
    else ranges wanted ((next, value') :: rest)

def Runs.select {α : Type} (runs : Runs α) (wanted : α → Bool) : CodePointSet :=
  ⟨(CodePointSet.join (runs.ranges wanted)).toArray⟩

end Groupwise.Unicode
