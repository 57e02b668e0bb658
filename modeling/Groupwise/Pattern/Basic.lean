import Groupwise.Text.CodePoint
import Groupwise.Unicode.Derived

/-!
# Regular expressions

A regular expression describes which parts of a text it matches. A part is given by the positions
where it starts and where it ends, so an expression stands for a relation between positions, and the
relations of its parts are combined into its own.
-/
namespace Groupwise.Pattern

/-- What can be tested between two characters. Words are made of word characters, either of all
scripts or of the basic ones alone. -/
inductive Anchor where
  | textStart | textEnd | lineStart | lineEnd
  /-- Here lines may end with a carriage return, a newline, or both in this order. -/
  | anyLineStart | anyLineEnd
  | boundary (allScripts : Bool)
  | noBoundary (allScripts : Bool)
  | wordStart (allScripts : Bool)
  | wordEnd (allScripts : Bool)
  | wordStartHalf (allScripts : Bool)
  | wordEndHalf (allScripts : Bool)
  deriving Repr, DecidableEq

def basicWordCharacters : Text.CodePointSet :=
  ⟨#[(0x30, 0x39), (0x41, 0x5a), (0x5f, 0x5f), (0x61, 0x7a)]⟩

def wordAt (allScripts : Bool) (text : Array Char) (i : Nat) : Bool :=
  (text[i]?).any (if allScripts then Unicode.wordCharacters else basicWordCharacters).contains

def wordBefore (allScripts : Bool) (text : Array Char) (i : Nat) : Bool :=
  i != 0 && wordAt allScripts text (i - 1)

def charBefore? (text : Array Char) (i : Nat) : Option Char := if i = 0 then none else text[i - 1]?

def Anchor.holds (text : Array Char) (i : Nat) : Anchor → Bool
  | .textStart => i == 0
  | .textEnd => i == text.size
  | .lineStart => i == 0 || charBefore? text i == some '\n'
  | .lineEnd => i == text.size || text[i]? == some '\n'
  | .anyLineStart =>
    i == 0 || charBefore? text i == some '\n' ||
      (charBefore? text i == some '\r' && text[i]? != some '\n')
  | .anyLineEnd =>
    i == text.size || text[i]? == some '\r' ||
      (text[i]? == some '\n' && charBefore? text i != some '\r')
  | .boundary w => wordBefore w text i != wordAt w text i
  | .noBoundary w => wordBefore w text i == wordAt w text i
  | .wordStart w => !wordBefore w text i && wordAt w text i
  | .wordEnd w => wordBefore w text i && !wordAt w text i
  | .wordStartHalf w => !wordBefore w text i
  | .wordEndHalf w => !wordAt w text i

end Pattern

inductive Pattern where
  | empty
  | chars (set : Text.CodePointSet)
  | anchor (anchor : Pattern.Anchor)
  | sequence (parts : List Pattern)
  | choice (branches : List Pattern)
  /-- At least `least` and, if there is a bound, at most `most` times. -/
  | repetition (body : Pattern) (least : Nat) (most : Option Nat)
  | group (body : Pattern)

namespace Pattern

/-! ## Relations between positions -/

/-- For each position where a part may start, the positions where it may end, as the bits of a
number. -/
abbrev Ends := Array Nat

namespace Ends

def from_ (ends : Ends) (i : Nat) : Nat := (ends[i]?).getD 0

/-- The relation of a step that is taken or not at each of `size` positions. -/
def ofStep (size length : Nat) (holds : Nat → Bool) : Ends :=
  (Array.range size).map fun i => if holds i then 1 <<< (i + length) else 0

def identity (size : Nat) : Ends := ofStep size 0 fun _ => true

def none (size : Nat) : Ends := ofStep size 0 fun _ => false

def union (a b : Ends) : Ends := a.zipWith (· ||| ·) b

/-- The union of the ends of some starts, which are bits of a number from `i` on. -/
def image (ends : Ends) (starts : Nat) : Nat → Nat → Nat
  | _, 0 => 0
  | i, count + 1 =>
    (if starts.testBit i then ends.from_ i else 0) ||| image ends starts (i + 1) count

/-- One part after another. A part never ends before it starts. -/
def compose (a b : Ends) : Ends :=
  a.mapIdx fun i starts => if starts = 0 then 0 else image b starts i (b.size - i)

/-- A part taken `n` times, by halving `n`; `fuel` bounds the number of halvings. -/
def power (ends : Ends) : Nat → Nat → Ends
  | 0, _ => identity ends.size
  | fuel + 1, n =>
    if n = 0 then identity ends.size
    else
      let half := power ends fuel (n / 2)
      let square := half.compose half
      if n % 2 = 1 then square.compose ends else square

/-- A part taken `n` times. More rounds than there are positions add nothing, because every further
round would have to stay where it is. -/
def times (ends : Ends) (n : Nat) : Ends :=
  let n := min n (ends.size + 1)
  power ends (n + 1) n

/-- A part taken any number of times. The ends of later starts are known before those of earlier
ones; `count` starts are still to do. -/
def closureFrom (ends : Ends) : Nat → Ends → Ends
  | 0, done => done
  | i + 1, done =>
    let onward := image done (ends.from_ i) (i + 1) (ends.size - (i + 1))
    closureFrom ends i (done.setIfInBounds i ((1 <<< i) ||| onward))

def closure (ends : Ends) : Ends := closureFrom ends ends.size (none ends.size)

end Ends

mutual

/-- The relation between the starts and the ends of the parts of a text that a pattern matches. -/
def ends (text : Array Char) : Pattern → Ends
  | .empty => .identity (text.size + 1)
  | .chars set => .ofStep (text.size + 1) 1 fun i => (text[i]?).any set.contains
  | .anchor a => .ofStep (text.size + 1) 0 fun i => a.holds text i
  | .sequence parts => endsOfAll text parts
  | .choice branches => endsOfSome text branches
  | .group body => ends text body
  | .repetition body least most =>
    let body := ends text body
    let first := body.times least
    match most with
    | Option.none => first.compose body.closure
    | some n => first.compose ((body.union (.identity body.size)).times (n - least))

def endsOfAll (text : Array Char) : List Pattern → Ends
  | [] => .identity (text.size + 1)
  | p :: rest => (ends text p).compose (endsOfAll text rest)

def endsOfSome (text : Array Char) : List Pattern → Ends
  | [] => .none (text.size + 1)
  | p :: rest => (ends text p).union (endsOfSome text rest)

end

def isMatch (p : Pattern) (text : String) : Bool :=
  (p.ends text.toList.toArray).any (· != 0)

end Pattern

end Groupwise
