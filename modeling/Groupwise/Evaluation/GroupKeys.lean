import Groupwise.Term

/-!
# Keys of groups

Every regrouping makes a new level of groups. A group has the key by which it was split off and a
parent in the level before. Groups are numbered from one; group zero holds no documents.
-/
namespace Groupwise

/-- Why a metric or filter of groups has no value. -/
inductive EvaluationError where
  | unknownLookup (name : String)
  | groupOutOfRange (group : Nat)
  | unregistered (program : List String)
  /-- The expression has a value for one term at a time only. -/
  | iterationOnly (expression : String)
  /-- The expression has a value for whole columns of groups only. -/
  | groupStatsOnly (expression : String)
  | source (reason : String)
  deriving Repr, DecidableEq, Inhabited

def EvaluationError.message : EvaluationError → String
  | .unknownLookup name => "Unknown group stats lookup: " ++ name
  | .groupOutOfRange group => "Group " ++ toString group ++ " does not exist"
  | .unregistered program => "Push was not registered: " ++ " ".intercalate program
  | .iterationOnly expression =>
    expression ++ " can only be evaluated during term iteration"
  | .groupStatsOnly expression => expression ++ " can only be evaluated over group stats"
  | .source reason => "Stats source error: " ++ reason

abbrev EvaluationM := Except EvaluationError

inductive GroupKey where
  | initial
  | term (term : Term)
  /-- From the lower bound on and short of the upper one. -/
  | range (lower upper : Int64)
  | lowGutter (upper : Int64)
  | highGutter (lower : Int64)
  | label (text : String)
  /-- All documents without an explicit key. -/
  | default
  deriving Repr, DecidableEq, Inhabited

namespace GroupKey

def isDefault : GroupKey → Bool
  | .default => true
  | _ => false

def isInitial : GroupKey → Bool
  | .initial => true
  | _ => false

def display : GroupKey → String
  | .initial => ""
  | .term t => t.spell
  | .range lower upper => "[" ++ toString lower.toInt ++ ", " ++ toString upper.toInt ++ ")"
  | .lowGutter upper => "[-infinity, " ++ toString upper.toInt ++ ")"
  | .highGutter lower => "[" ++ toString lower.toInt ++ ", infinity)"
  | .label text => text
  | .default => "DEFAULT"

def outline : GroupKey → Outline
  | .initial => .atom "Initial"
  | .term t => .tuple "Term" [t.outline]
  | .range lower upper => .record "Range" [("lower", .int64 lower), ("upper", .int64 upper)]
  | .lowGutter upper => .tuple "LowGutter" [.int64 upper]
  | .highGutter lower => .tuple "HighGutter" [.int64 lower]
  | .label text => .tuple "Label" [.text text]
  | .default => .atom "Default"

end GroupKey

inductive GroupKeys where
  | root
  /-- Groups in order, each with its parent in the level before. -/
  | level (previous : GroupKeys) (children : List (Nat × GroupKey))
  deriving Repr, DecidableEq, Inhabited

namespace GroupKeys

def children : GroupKeys → List (Nat × GroupKey)
  | .root => [(0, .initial)]
  | .level _ children => children

def previous? : GroupKeys → Option GroupKeys
  | .root => none
  | .level previous _ => some previous

def size (keys : GroupKeys) : Nat := keys.children.length

def contains (keys : GroupKeys) (group : Nat) : Bool := 1 ≤ group && group ≤ keys.size

def child? (keys : GroupKeys) : Nat → Option (Nat × GroupKey)
  | 0 => none
  | n + 1 => keys.children[n]?

/-- The parent of a group, zero if there is no such group. -/
def parent (keys : GroupKeys) (group : Nat) : Nat := (keys.child? group).elim 0 (·.1)

def key? (keys : GroupKeys) (group : Nat) : Option GroupKey := (keys.child? group).map (·.2)

def isDefault (keys : GroupKeys) (group : Nat) : Bool := (keys.key? group).any GroupKey.isDefault

/-- The key of a group unless it is the initial one. -/
def ownKey (keys : GroupKeys) (group : Nat) : List GroupKey :=
  (keys.key? group).toList.filter (!·.isInitial)

/-- The keys from the outermost regrouping down to a group. -/
def path : GroupKeys → Nat → List GroupKey
  | .root, group => root.ownKey group
  | .level previous children, group =>
    path previous ((level previous children).parent group) ++
      (level previous children).ownKey group

/-- A new level of groups, whose parents must be groups of this one. -/
def explode (keys : GroupKeys) (children : List (Nat × GroupKey)) : EvaluationM GroupKeys :=
  match children.find? (!keys.contains ·.1) with
  | some (parent, _) => .error (.groupOutOfRange parent)
  | none => .ok (.level keys children)

end GroupKeys

end Groupwise
