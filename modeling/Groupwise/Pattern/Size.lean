import Groupwise.Pattern.Basic
import Std.Data.HashSet.Basic

/-!
# The size of patterns

A pattern is accepted only if an automaton for it has room in memory. The automaton reads bytes; it
has a state for every byte of a character, for every choice and for every round of a counted
repetition. The same pattern is also run backwards, so two automata are measured.
-/
namespace Groupwise.Pattern

open Text (CodePointSet)

/-! ## Classes as sequences of bytes -/

/-- For each byte of some characters of equal length, the range of its values. -/
abbrev ByteRanges := List (Nat × Nat)

def bytesOf (n : Nat) : List Nat :=
  if n < 0x80 then [n]
  else if n < 0x800 then [0xc0 + n / 0x40, 0x80 + n % 0x40]
  else if n < 0x10000 then [0xe0 + n / 0x1000, 0x80 + n / 0x40 % 0x40, 0x80 + n % 0x40]
  else [0xf0 + n / 0x40000, 0x80 + n / 0x1000 % 0x40, 0x80 + n / 0x40 % 0x40, 0x80 + n % 0x40]

/-- The last code points of one, two and three bytes, and those around the gap between them that
holds no characters. -/
def splitPoint? (first last : Nat) : Option Nat :=
  [0x7f, 0x7ff, 0xd7ff, 0xdfff, 0xffff].find? fun m => first ≤ m && m < last

/-- Where a range has to be cut so that its last `i` bytes take all values in each piece. -/
def cut? (first last i : Nat) : Option Nat :=
  let block := Nat.pow 0x40 i
  if first / block = last / block then none
  else if first % block ≠ 0 then some (first / block * block + block - 1)
  else if last % block ≠ block - 1 then some (last / block * block - 1)
  else none

/-- Cut a range into pieces whose bytes are independent of each other. A range is cut at most once
at each length and twice at each byte on each side, which bounds the fuel. -/
def pieces : Nat → Nat → Nat → List (Nat × Nat)
  | 0, _, _ => []
  | fuel + 1, first, last =>
    match splitPoint? first last with
    | some m => pieces fuel first m ++ pieces fuel (m + 1) last
    | none =>
      if 0xd800 ≤ first && last ≤ 0xdfff then []
      else if last < 0x80 then [(first, last)]
      else match (cut? first last 1).or ((cut? first last 2).or (cut? first last 3)) with
        | some m => pieces fuel first m ++ pieces fuel (m + 1) last
        | none => [(first, last)]

def byteSequences (set : CodePointSet) : List ByteRanges :=
  set.ranges.toList.flatMap fun r =>
    (pieces 64 r.1 r.2).map fun p => (bytesOf p.1).zip (bytesOf p.2)

/-! ## States -/

def stateSize : Nat := 32

/-- The memory of a state that chooses between some others. -/
def choiceSize (count : Nat) : Nat := stateSize + 4 * count

/-- The memory of a state that reads one byte and goes on by its range. -/
def branchSize (count : Nat) : Nat := stateSize + 8 * count

/-- Neighbouring sequences that start with the same byte range, by that range. -/
def groupByFirst : List ByteRanges → List ((Nat × Nat) × List ByteRanges)
  | [] => []
  | [] :: rest => groupByFirst rest
  | (r :: tail) :: rest =>
    match groupByFirst rest with
    | (r', tails) :: groups =>
      if r = r' then (r, tail :: tails) :: groups else (r, [tail]) :: (r', tails) :: groups
    | [] => [(r, [tail])]

/-- What may follow after the bytes read so far, for every way to read some; `depth` bounds the
length of the sequences. -/
def remainders : Nat → List ByteRanges → List (List ByteRanges)
  | 0, _ => []
  | depth + 1, sequences =>
    let groups := groupByFirst sequences
    if groups.isEmpty then []
    else sequences :: groups.flatMap fun g => remainders depth g.2

def distinct {α : Type} [BEq α] [Hashable α] (items : List α) : List α :=
  (items.foldl (fun s a => s.insert a) (∅ : Std.HashSet α)).toList

/-- The memory of a class read forwards: states that have the same future are shared. -/
def forwardClass (sequences : List ByteRanges) : Nat :=
  let futures := distinct (remainders 4 sequences)
  stateSize + (futures.map fun s => branchSize (groupByFirst s).length).foldl (· + ·) 0

/-- The memory of a class read backwards: sequences are alternatives that share their first
bytes. -/
def backwardClass (sequences : List ByteRanges) : Nat :=
  let beginnings := sequences.flatMap fun s => (List.range s.length).map fun n => s.take (n + 1)
  choiceSize sequences.length + stateSize + stateSize * (distinct beginnings).length

/-- No less than the memory of a class in either direction. -/
def roughClass (sequences : List ByteRanges) : Nat :=
  choiceSize sequences.length + stateSize +
    (sequences.map fun s => (stateSize + 8) * s.length).foldl (· + ·) 0

/-- How an automaton is measured: its classes beyond the basic characters, and the states that
remember a group. -/
structure Measure where
  classSize : List ByteRanges → Nat
  groupSize : Nat

def Measure.forward : Measure := ⟨forwardClass, 2 * stateSize⟩

def Measure.backward : Measure := ⟨backwardClass, 0⟩

def Measure.rough : Measure := ⟨roughClass, 2 * stateSize⟩

def Measure.chars (measure : Measure) (set : CodePointSet) : Nat :=
  match set.ranges.toList with
  | [(first, last)] =>
    if first = last then stateSize * (bytesOf first).length else ofClass set
  | _ => ofClass set
where
  ofClass (set : CodePointSet) : Nat :=
    if set.isBelow 0x80 then stateSize + branchSize set.ranges.size
    else measure.classSize (byteSequences set)

/-! ## Patterns -/

mutual

def isZeroWidth : Pattern → Bool
  | .empty => true
  | .chars _ => false
  | .anchor _ => true
  | .sequence parts => allZeroWidth parts
  | .choice branches => allZeroWidth branches
  | .repetition body _ most => most == some 0 || isZeroWidth body
  | .group body => isZeroWidth body

def allZeroWidth : List Pattern → Bool
  | [] => true
  | p :: rest => isZeroWidth p && allZeroWidth rest

end

mutual

def mayBeEmpty : Pattern → Bool
  | .empty => true
  | .chars _ => false
  | .anchor _ => true
  | .sequence parts => allMayBeEmpty parts
  | .choice branches => anyMayBeEmpty branches
  | .repetition body least _ => least == 0 || mayBeEmpty body
  | .group body => mayBeEmpty body

def allMayBeEmpty : List Pattern → Bool
  | [] => true
  | p :: rest => mayBeEmpty p && allMayBeEmpty rest

def anyMayBeEmpty : List Pattern → Bool
  | [] => false
  | p :: rest => mayBeEmpty p || anyMayBeEmpty rest

end

/-- The memory of a repetition of a body. What has no width is not repeated more than once. -/
def repetitionSize (body : Nat) (zeroWidth nullable : Bool) (least : Nat) (most : Option Nat) :
    Nat :=
  let least := if zeroWidth then min least 1 else least
  let most := if zeroWidth then some (min (most.getD 1) 1) else most
  match least, most with
  | 0, some 0 => stateSize
  | 0, some 1 => choiceSize 2 + body + stateSize
  | 0, none =>
    if nullable then body + 2 * choiceSize 2 + stateSize else choiceSize 2 + body
  | n, none => n * body + choiceSize 2
  | n, some m =>
    if n = m then n * body
    else (if n = 0 then stateSize else n * body) + stateSize + (m - n) * (choiceSize 2 + body)

def setsOf? : List Pattern → Option (List CodePointSet)
  | [] => some []
  | .chars set :: rest => (setsOf? rest).map (set :: ·)
  | _ => none

mutual

def Measure.pattern (measure : Measure) : Pattern → Nat
  | .empty => stateSize
  | .chars set => measure.chars set
  | .anchor _ => stateSize
  | .sequence parts => measure.parts parts
  | .choice branches =>
    match setsOf? branches with
    | some sets => measure.chars (.unionAll sets)
    | none => choiceSize branches.length + stateSize + measure.branches branches
  | .repetition body least most =>
    repetitionSize (measure.pattern body) (isZeroWidth body) (mayBeEmpty body) least most
  | .group body => measure.groupSize + measure.pattern body

/-- Parts one after another, of which empty ones need no states. -/
def Measure.parts (measure : Measure) : List Pattern → Nat
  | [] => 0
  | .empty :: rest => measure.parts rest
  | p :: rest => measure.pattern p + measure.parts rest

def Measure.branches (measure : Measure) : List Pattern → Nat
  | [] => 0
  | p :: rest => measure.pattern p + measure.branches rest

end

/-- The memory that every automaton needs: its start, its end and the characters it passes over. -/
def Measure.frame (measure : Measure) : Nat :=
  choiceSize 2 + 2 * stateSize + 8 + stateSize + measure.groupSize

def Measure.total (measure : Measure) (p : Pattern) : Nat := measure.frame + measure.pattern p

def sizeLimit : Nat := 10485760

/-- Whether both automata of a pattern have room. The rough measure spares the exact ones for
patterns that are far from the limit. -/
def fits (p : Pattern) : Bool :=
  Measure.rough.total p ≤ sizeLimit ||
    (Measure.forward.total p ≤ sizeLimit && Measure.backward.total p ≤ sizeLimit)

end Groupwise.Pattern
