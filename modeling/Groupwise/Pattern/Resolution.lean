import Groupwise.Pattern.Basic
import Groupwise.Pattern.Tree

/-!
# What a written pattern means

The switches of a pattern decide what its parts stand for: whether case matters, what ends a line,
and whether classes reach beyond the basic characters. A setting of switches holds up to the end of
the group it stands in.
-/
namespace Groupwise.Pattern

open Text (CodePointSet)

/-- The switches in force. -/
structure Flags where
  ignoreCase : Bool := false
  multiLine : Bool := false
  dotMatchesNewline : Bool := false
  /-- Whether classes are those of all scripts. Otherwise a class is one of bytes, and must not
  match a part of a character. -/
  unicode : Bool := true
  carriageReturn : Bool := false
  deriving Repr, DecidableEq

namespace Flags

def set (flags : Flags) : Flag × Bool → Flags
  | (.ignoreCase, on) => { flags with ignoreCase := on }
  | (.multiLine, on) => { flags with multiLine := on }
  | (.dotMatchesNewline, on) => { flags with dotMatchesNewline := on }
  | (.unicode, on) => { flags with unicode := on }
  | (.carriageReturn, on) => { flags with carriageReturn := on }
  | (.swapGreed, _) => flags
  | (.spaced, _) => flags

def apply (flags : Flags) (setting : FlagSetting) : Flags := setting.foldl set flags

/-- A set with the variants in case that count. -/
def fold (flags : Flags) (set : CodePointSet) : CodePointSet :=
  if !flags.ignoreCase then set
  else if flags.unicode then Unicode.CaseFolding.fold set
  else Unicode.CaseFolding.foldBasic set

/-- A class or its complement. A complement of bytes would match parts of characters. -/
def negate (flags : Flags) (span : Span) (negated : Bool) (set : CodePointSet) :
    Except Fault CodePointSet :=
  if !negated then .ok set
  else if flags.unicode then .ok set.complement
  else .error ⟨.partOfCharacter, span, none⟩

end Flags

/-! ## Classes -/

def BasicClass.set : BasicClass → CodePointSet
  | .alnum => .ofRanges [(0x30, 0x39), (0x41, 0x5a), (0x61, 0x7a)]
  | .alpha => .ofRanges [(0x41, 0x5a), (0x61, 0x7a)]
  | .ascii => .range 0 0x7f
  | .blank => .ofCodes [0x9, 0x20]
  | .cntrl => .ofRanges [(0, 0x1f), (0x7f, 0x7f)]
  | .digit => .range 0x30 0x39
  | .graph => .range 0x21 0x7e
  | .lower => .range 0x61 0x7a
  | .print => .range 0x20 0x7e
  | .punct => .ofRanges [(0x21, 0x2f), (0x3a, 0x40), (0x5b, 0x60), (0x7b, 0x7e)]
  | .space => .ofRanges [(0x9, 0xd), (0x20, 0x20)]
  | .upper => .range 0x41 0x5a
  | .word => basicWordCharacters
  | .xdigit => .ofRanges [(0x30, 0x39), (0x41, 0x46), (0x61, 0x66)]

def ShortClass.set (unicode : Bool) : ShortClass → CodePointSet
  | .digit => if unicode then Unicode.decimalDigits else BasicClass.digit.set
  | .space => if unicode then Unicode.whiteSpace else BasicClass.space.set
  | .word => if unicode then Unicode.wordCharacters else BasicClass.word.set

/-- A byte beyond the basic characters is part of a character only. -/
def Literal.checkByte (flags : Flags) (l : Literal) : Except Fault Unit :=
  if !flags.unicode && l.isByte && 0x7f < l.char.toNat then .error ⟨.partOfCharacter, l.span, none⟩
  else .ok ()

/-- The number of a character in a class. -/
def Literal.classCode (flags : Flags) (l : Literal) : Except Fault Nat := do
  l.checkByte flags
  if !flags.unicode && 0x7f < l.char.toNat then .error ⟨.unicodeNotAllowed, l.span, none⟩
  else .ok l.char.toNat

def propertyFault (span : Span) : Unicode.PropertyError → Fault
  | .unknownProperty => ⟨.unknownProperty, span, none⟩
  | .unknownValue => ⟨.unknownPropertyValue, span, none⟩

/-- The characters of a class without brackets. Classes with a letter of their own contain the
variants in case of their members already. -/
def classSet (flags : Flags) : Atom → Except Fault CodePointSet
  | .literal l => return .single (← l.classCode flags)
  | .short span kind negated => flags.negate span negated (kind.set flags.unicode)
  | .property span query negated =>
    if !flags.unicode then .error ⟨.unicodeNotAllowed, span, none⟩
    else match query.set with
      | .ok set => flags.negate span negated (flags.fold set)
      | .error e => .error (propertyFault span e)

/-- The characters that an atom stands for outside of classes. -/
def Atom.set (flags : Flags) : Atom → Except Fault CodePointSet
  | .literal l => do
    l.checkByte flags
    return flags.fold (.single l.char.toNat)
  | a => classSet flags a

def Operation.apply : Operation → CodePointSet → CodePointSet → CodePointSet
  | .intersection, l, r => l.intersection r
  | .difference, l, r => l.difference r
  | .symmetricDifference, l, r => l.symmetricDifference r

mutual

/-- The characters of a class. Variants in case are added before a class is negated and before its
operands are combined. -/
def ClassTree.set (flags : Flags) : ClassTree → Except Fault CodePointSet
  | .atom a => classSet flags a
  | .range first last => do
    let first ← first.classCode flags
    return .range first (← last.classCode flags)
  | .basic span kind negated => flags.negate span negated (flags.fold kind.set)
  | .bracket span negated content => do
    flags.negate span negated (flags.fold (← content.set flags))
  | .union _ items => ClassTree.unionSet flags items
  | .operation _ op left right => do
    let left ← left.set flags
    let right ← right.set flags
    return op.apply (flags.fold left) (flags.fold right)

def ClassTree.unionSet (flags : Flags) : List ClassTree → Except Fault CodePointSet
  | [] => .ok .empty
  | item :: rest => do
    let set ← item.set flags
    return set.union (← ClassTree.unionSet flags rest)

end

/-! ## Patterns -/

/-- What a point matches. -/
def Flags.dot (flags : Flags) (span : Span) : Except Fault CodePointSet :=
  if !flags.unicode then .error ⟨.partOfCharacter, span, none⟩
  else if flags.dotMatchesNewline then .ok .all
  else if flags.carriageReturn then .ok (CodePointSet.ofCodes [0xa, 0xd]).complement
  else .ok (CodePointSet.single 0xa).complement

def Flags.anchor (flags : Flags) : AnchorMark → Anchor
  | .caret =>
    if !flags.multiLine then .textStart
    else if flags.carriageReturn then .anyLineStart else .lineStart
  | .dollar =>
    if !flags.multiLine then .textEnd
    else if flags.carriageReturn then .anyLineEnd else .lineEnd
  | .textStart => .textStart
  | .textEnd => .textEnd
  | .boundary => .boundary flags.unicode
  | .noBoundary => .noBoundary flags.unicode
  | .wordStart => .wordStart flags.unicode
  | .wordEnd => .wordEnd flags.unicode
  | .wordStartHalf => .wordStartHalf flags.unicode
  | .wordEndHalf => .wordEndHalf flags.unicode

mutual

/-- The pattern that a tree stands for, with the switches in force behind it. -/
def Tree.resolve (flags : Flags) : Tree → Except Fault (Pattern × Flags)
  | .empty => .ok (.empty, flags)
  | .flags setting => .ok (.empty, flags.apply setting)
  | .atom a => do return (.chars (← a.set flags), flags)
  | .dot span => do return (.chars (← flags.dot span), flags)
  | .anchor mark => .ok (.anchor (flags.anchor mark), flags)
  | .bracket content => do return (.chars (← content.set flags), flags)
  | .repetition _ body least most => do
    let (body, flags) ← body.resolve flags
    return (.repetition body least most, flags)
  | .group _ captures setting body => do
    let (body, _) ← body.resolve (flags.apply setting)
    return (if captures then .group body else body, flags)
  | .alternation _ branches => do
    let (branches, flags) ← Tree.resolveAll flags branches
    return (.choice branches, flags)
  | .sequence _ parts => do
    let (parts, flags) ← Tree.resolveAll flags parts
    return (.sequence parts, flags)

def Tree.resolveAll (flags : Flags) : List Tree → Except Fault (List Pattern × Flags)
  | [] => .ok ([], flags)
  | tree :: rest => do
    let (p, flags) ← tree.resolve flags
    let (ps, flags) ← Tree.resolveAll flags rest
    return (p :: ps, flags)

end

end Groupwise.Pattern
