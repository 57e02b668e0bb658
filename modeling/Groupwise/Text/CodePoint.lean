/-!
# Sets of code points

A set is a table of closed ranges in increasing order. Membership is a binary search in the table,
and the operations of sets go through the ranges once they are sorted.
-/
namespace Groupwise.Text

/-- Closed ranges of code points, disjoint and in increasing order. -/
structure CodePointSet where
  ranges : Array (Nat × Nat)
  deriving Repr, DecidableEq, Inhabited

namespace CodePointSet

/-- The ranges that end at `code` or later start at the index this search narrows down to. -/
def search (ranges : Array (Nat × Nat)) (code : Nat) (low high : Nat) : Bool :=
  if low < high then
    let mid := (low + high) / 2
    match ranges[mid]? with
    | none => false
    | some (first, last) =>
      if code < first then search ranges code low mid
      else if last < code then search ranges code (mid + 1) high
      else true
  else false
termination_by high - low
decreasing_by all_goals omega

def containsCode (set : CodePointSet) (code : Nat) : Bool :=
  search set.ranges code 0 set.ranges.size

/-- Whether the character lies in one of the ranges. -/
def contains (set : CodePointSet) (c : Char) : Bool := set.containsCode c.toNat

/-! ## Operations -/

/-- The greatest code point. -/
def greatest : Nat := 0x10FFFF

def empty : CodePointSet := ⟨#[]⟩

def all : CodePointSet := ⟨#[(0, greatest)]⟩

def range (first last : Nat) : CodePointSet := ⟨#[(first, last)]⟩

def single (code : Nat) : CodePointSet := range code code

/-- Join a range with those behind it that it touches or overlaps. The ranges come in the order of
their first code points. -/
def joinFrom (first last : Nat) : List (Nat × Nat) → List (Nat × Nat)
  | [] => [(first, last)]
  | (a, b) :: rest =>
    if a ≤ last + 1 then joinFrom first (max last b) rest else (first, last) :: joinFrom a b rest

/-- Join ranges that touch or overlap. -/
def join : List (Nat × Nat) → List (Nat × Nat)
  | [] => []
  | (a, b) :: rest => joinFrom a b rest

/-- The set of the code points in some ranges, given in any order. -/
def ofRanges (ranges : List (Nat × Nat)) : CodePointSet :=
  ⟨(join (ranges.mergeSort fun a b => a.1 ≤ b.1)).toArray⟩

def ofCodes (codes : List Nat) : CodePointSet := ofRanges (codes.map fun c => (c, c))

def union (a b : CodePointSet) : CodePointSet := ofRanges (a.ranges.toList ++ b.ranges.toList)

def unionAll (sets : List CodePointSet) : CodePointSet :=
  ofRanges (sets.flatMap fun s => s.ranges.toList)

/-- The ranges between the given ones, from `next` on. -/
def gaps (next : Nat) : List (Nat × Nat) → List (Nat × Nat)
  | [] => if next ≤ greatest then [(next, greatest)] else []
  | (a, b) :: rest =>
    if next < a then (next, a - 1) :: gaps (b + 1) rest else gaps (b + 1) rest

def complement (set : CodePointSet) : CodePointSet := ⟨(gaps 0 set.ranges.toList).toArray⟩

def intersection (a b : CodePointSet) : CodePointSet :=
  (a.complement.union b.complement).complement

def difference (a b : CodePointSet) : CodePointSet := a.intersection b.complement

def symmetricDifference (a b : CodePointSet) : CodePointSet :=
  (a.difference b).union (b.difference a)

/-- Whether no code point lies beyond the given one. -/
def isBelow (set : CodePointSet) (bound : Nat) : Bool := set.ranges.all fun r => r.2 < bound

end CodePointSet

/-- The code points with the white-space property. -/
def blanks : CodePointSet where
  ranges := #[
    (0x9, 0xd), (0x20, 0x20), (0x85, 0x85), (0xa0, 0xa0), (0x1680, 0x1680), (0x2000, 0x200a),
    (0x2028, 0x2029), (0x202f, 0x202f), (0x205f, 0x205f), (0x3000, 0x3000)]

end Groupwise.Text
