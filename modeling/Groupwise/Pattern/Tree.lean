import Groupwise.Pattern.Fault
import Groupwise.Unicode.Property

/-!
# Patterns as they are written

The tree of a regular expression before its flags are applied. Parts that can turn out to be at
fault later keep their place in the text.
-/
namespace Groupwise.Pattern

/-- A single character. A byte is one that is written as two hexadecimal digits. -/
structure Literal where
  span : Span
  char : Char
  isByte : Bool := false
  deriving Repr, DecidableEq

/-- The classes that have a letter of their own: `\d`, `\s` and `\w`. -/
inductive ShortClass where
  | digit | space | word
  deriving Repr, DecidableEq

/-- The classes that are named between colons, such as `[:alpha:]`. -/
inductive BasicClass where
  | alnum | alpha | ascii | blank | cntrl | digit | graph | lower | print | punct | space | upper
  | word | xdigit
  deriving Repr, DecidableEq

namespace BasicClass

def named? : String → Option BasicClass
  | "alnum" => some .alnum
  | "alpha" => some .alpha
  | "ascii" => some .ascii
  | "blank" => some .blank
  | "cntrl" => some .cntrl
  | "digit" => some .digit
  | "graph" => some .graph
  | "lower" => some .lower
  | "print" => some .print
  | "punct" => some .punct
  | "space" => some .space
  | "upper" => some .upper
  | "word" => some .word
  | "xdigit" => some .xdigit
  | _ => none

end BasicClass

inductive Atom where
  | literal (literal : Literal)
  | short (span : Span) (kind : ShortClass) (negated : Bool)
  | property (span : Span) (query : Unicode.PropertyQuery) (negated : Bool)
  deriving Repr, DecidableEq

def Atom.span : Atom → Span
  | .literal l => l.span
  | .short span _ _ => span
  | .property span _ _ => span

/-- How the two operands of a class are combined. -/
inductive Operation where
  | intersection | difference | symmetricDifference
  deriving Repr, DecidableEq

inductive ClassTree where
  | atom (atom : Atom)
  | range (first last : Literal)
  | basic (span : Span) (kind : BasicClass) (negated : Bool)
  | bracket (span : Span) (negated : Bool) (content : ClassTree)
  | union (span : Span) (items : List ClassTree)
  | operation (span : Span) (operation : Operation) (left right : ClassTree)

def ClassTree.span : ClassTree → Span
  | .atom a => a.span
  | .range first last => ⟨first.span.start, last.span.stop⟩
  | .basic span _ _ => span
  | .bracket span _ _ => span
  | .union span _ => span
  | .operation span _ _ _ => span

/-- Items side by side. A single item stands for itself. -/
def ClassTree.joined (start : Nat) : List ClassTree → ClassTree
  | [] => .union (.point start) []
  | [item] => item
  | first :: rest =>
    .union ⟨first.span.start, ((first :: rest).getLast?.map (·.span.stop)).getD start⟩
      (first :: rest)

inductive AnchorMark where
  | caret | dollar | textStart | textEnd | boundary | noBoundary | wordStart | wordEnd
  | wordStartHalf | wordEndHalf
  deriving Repr, DecidableEq

inductive Flag where
  | ignoreCase | multiLine | dotMatchesNewline | swapGreed | unicode | carriageReturn | spaced
  deriving Repr, DecidableEq

/-- Switches with the values they are set to. -/
abbrev FlagSetting := List (Flag × Bool)

def FlagSetting.value? (setting : FlagSetting) (flag : Flag) : Option Bool := setting.lookup flag

inductive Tree where
  | empty
  /-- A setting of switches for what follows in the same group. -/
  | flags (setting : FlagSetting)
  | atom (atom : Atom)
  | dot (span : Span)
  | anchor (mark : AnchorMark)
  | bracket (content : ClassTree)
  | repetition (span : Span) (body : Tree) (least : Nat) (most : Option Nat)
  | group (span : Span) (captures : Bool) (setting : FlagSetting) (body : Tree)
  | alternation (span : Span) (branches : List Tree)
  | sequence (span : Span) (parts : List Tree)

/-- Parts one after another. A single part stands for itself. -/
def Tree.joined (span : Span) : List Tree → Tree
  | [] => .empty
  | [part] => part
  | parts => .sequence span parts

/-! ## Depth -/

mutual

/-- The first place where a class is nested deeper than allowed. -/
def ClassTree.tooDeep? : Nat → ClassTree → Option Span
  | _, .atom _ => none
  | _, .range _ _ => none
  | _, .basic _ _ _ => none
  | _, .union _ [] => none
  | 0, .bracket span _ _ => some span
  | depth + 1, .bracket _ _ content => content.tooDeep? depth
  | 0, .union span _ => some span
  | depth + 1, .union _ items => ClassTree.anyTooDeep? depth items
  | 0, .operation span _ _ _ => some span
  | depth + 1, .operation _ _ left right =>
    (left.tooDeep? depth).or (right.tooDeep? depth)

def ClassTree.anyTooDeep? (depth : Nat) : List ClassTree → Option Span
  | [] => none
  | item :: rest => (item.tooDeep? depth).or (ClassTree.anyTooDeep? depth rest)

end

mutual

/-- The first place where a pattern is nested deeper than allowed. -/
def Tree.tooDeep? : Nat → Tree → Option Span
  | _, .empty => none
  | _, .flags _ => none
  | _, .atom _ => none
  | _, .dot _ => none
  | _, .anchor _ => none
  | depth, .bracket content => content.tooDeep? depth
  | 0, .repetition span _ _ _ => some span
  | depth + 1, .repetition _ body _ _ => body.tooDeep? depth
  | 0, .group span _ _ _ => some span
  | depth + 1, .group _ _ _ body => body.tooDeep? depth
  | 0, .alternation span _ => some span
  | depth + 1, .alternation _ branches => Tree.anyTooDeep? depth branches
  | 0, .sequence span _ => some span
  | depth + 1, .sequence _ parts => Tree.anyTooDeep? depth parts

def Tree.anyTooDeep? (depth : Nat) : List Tree → Option Span
  | [] => none
  | part :: rest => (part.tooDeep? depth).or (Tree.anyTooDeep? depth rest)

end

end Groupwise.Pattern
