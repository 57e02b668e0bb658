/-!
# Faults of patterns

What can be wrong with the text of a regular expression, and how it is shown: the text is repeated
with marks under the part that is at fault.
-/
namespace Groupwise.Pattern

/-- A part of a pattern, from one position up to another. Positions count characters. -/
structure Span where
  start : Nat
  stop : Nat
  deriving Repr, DecidableEq, Inhabited

def Span.point (position : Nat) : Span := ⟨position, position⟩

def Span.char (position : Nat) : Span := ⟨position, position + 1⟩

inductive FaultKind where
  | anchorInClass
  | rangeReversed
  | rangeWithoutLiteral
  | classUnclosed
  | countMissing
  | countTooLarge
  | codeEmpty
  | codeOfNoCharacter
  | codeDigit
  | escapeUnfinished
  | escapeUnknown
  | negationDangling
  | flagRepeated
  | negationRepeated
  | flagsUnfinished
  | flagUnknown
  | nameRepeated
  | nameEmpty
  | nameInvalid
  | nameUnclosed
  | groupUnclosed
  | groupUnopened
  | nestedTooDeep (limit : Nat)
  | countsReversed
  | countUnclosed
  | nothingToRepeat
  | boundaryUnclosed
  | boundaryUnknown
  | boundaryUnfinished
  | propertyInvalid
  | backReference
  | lookAround
  | unicodeNotAllowed
  | partOfCharacter
  | unknownProperty
  | unknownPropertyValue
  deriving Repr, DecidableEq

def FaultKind.message : FaultKind → String
  | .anchorInClass => "invalid escape sequence found in character class"
  | .rangeReversed => "invalid character class range, the start must be <= the end"
  | .rangeWithoutLiteral => "invalid range boundary, must be a literal"
  | .classUnclosed => "unclosed character class"
  | .countMissing => "repetition quantifier expects a valid decimal"
  | .countTooLarge => "decimal literal invalid"
  | .codeEmpty => "hexadecimal literal empty"
  | .codeOfNoCharacter => "hexadecimal literal is not a Unicode scalar value"
  | .codeDigit => "invalid hexadecimal digit"
  | .escapeUnfinished => "incomplete escape sequence, reached end of pattern prematurely"
  | .escapeUnknown => "unrecognized escape sequence"
  | .negationDangling => "dangling flag negation operator"
  | .flagRepeated => "duplicate flag"
  | .negationRepeated => "flag negation operator repeated"
  | .flagsUnfinished => "expected flag but got end of regex"
  | .flagUnknown => "unrecognized flag"
  | .nameRepeated => "duplicate capture group name"
  | .nameEmpty => "empty capture group name"
  | .nameInvalid => "invalid capture group character"
  | .nameUnclosed => "unclosed capture group name"
  | .groupUnclosed => "unclosed group"
  | .groupUnopened => "unopened group"
  | .nestedTooDeep limit =>
    "exceed the maximum number of nested parentheses/brackets (" ++ toString limit ++ ")"
  | .countsReversed => "invalid repetition count range, the start must be <= the end"
  | .countUnclosed => "unclosed counted repetition"
  | .nothingToRepeat => "repetition operator missing expression"
  | .boundaryUnclosed =>
    "special word boundary assertion is either unclosed or contains an invalid character"
  | .boundaryUnknown =>
    "unrecognized special word boundary assertion, valid choices are: start, end, start-half " ++
      "or end-half"
  | .boundaryUnfinished =>
    "found either the beginning of a special word boundary or a bounded repetition on a \\b " ++
      "with an opening brace, but no closing brace"
  | .propertyInvalid => "invalid Unicode character class"
  | .backReference => "backreferences are not supported"
  | .lookAround => "look-around, including look-ahead and look-behind, is not supported"
  | .unicodeNotAllowed => "Unicode not allowed here"
  | .partOfCharacter => "pattern can match invalid UTF-8"
  | .unknownProperty => "Unicode property not found"
  | .unknownPropertyValue => "Unicode property value not found"

/-- A fault with its place, and with the place of what it collides with. -/
structure Fault where
  kind : FaultKind
  span : Span
  other : Option Span := none
  deriving Repr, DecidableEq

/-! ## Showing a fault -/

structure Place where
  line : Nat
  column : Nat
  deriving Repr, DecidableEq

def Place.after (cs : List Char) : Place :=
  cs.foldl (fun p c => if c = '\n' then ⟨p.line + 1, 1⟩ else ⟨p.line, p.column + 1⟩) ⟨1, 1⟩

/-- The lines of a text, without their line breaks. A break at the end starts no line. -/
def lines (text : String) : List String :=
  let parts := text.splitOn "\n"
  let parts := if parts.getLast? = some "" then parts.dropLast else parts
  parts.map fun line =>
    match line.toList.getLast? with
    | some '\r' => String.ofList line.toList.dropLast
    | _ => line

def spaces (n : Nat) : String := String.ofList (List.replicate n ' ')

/-- Marks under the columns of some spans, which come in order. -/
def underline (spans : List (Place × Place)) : String :=
  (spans.foldl (fun (line : String × Nat) span =>
    let gap := span.1.column - 1 - line.2
    let marks := max 1 (span.2.column - span.1.column)
    (line.1 ++ spaces gap ++ String.ofList (List.replicate marks '^'), line.2 + gap + marks))
    ("", 0)).1

def Fault.message (pattern : String) (fault : Fault) : String :=
  let cs := pattern.toList
  let places (s : Span) : Place × Place := (.after (cs.take s.start), .after (cs.take s.stop))
  let spans := (fault.span :: fault.other.toList).mergeSort (fun a b =>
    a.start < b.start || (a.start == b.start && a.stop ≤ b.stop)) |>.map places
  let single := spans.filter fun s => s.1.line == s.2.line
  let texts := lines pattern
  let count := texts.length + if cs.getLast? = some '\n' then 1 else 0
  let width := if count ≤ 1 then 0 else (toString count).length
  let notated := String.join ((texts.zipIdx 1).map fun (line, number) =>
    let margin :=
      if width == 0 then "    "
      else spaces (width - (toString number).length) ++ toString number ++ ": "
    let under := single.filter fun s => s.1.line == number
    margin ++ line ++ "\n" ++
      if under.isEmpty then "" else spaces margin.length ++ underline under ++ "\n")
  if cs.contains '\n' then
    let divider := String.ofList (List.replicate 79 '~') ++ "\n"
    let wide := spans.filter fun s => s.1.line != s.2.line
    let notes := String.join (wide.map fun s =>
      "on line " ++ toString s.1.line ++ " (column " ++ toString s.1.column ++ ") through line " ++
        toString s.2.line ++ " (column " ++ toString (s.2.column - 1) ++ ")\n")
    "regex parse error:\n" ++ divider ++ notated ++ divider ++ notes ++
      "error: " ++ fault.kind.message
  else "regex parse error:\n" ++ notated ++ "error: " ++ fault.kind.message

/-- Why a text is not accepted as a pattern. -/
inductive Refusal where
  | faulty (fault : Fault)
  /-- Matching it would take more memory than the given number of bytes. -/
  | tooLarge (limit : Nat)
  deriving Repr, DecidableEq

def Refusal.message (pattern : String) : Refusal → String
  | .faulty fault => fault.message pattern
  | .tooLarge limit => "Compiled regex exceeds size limit of " ++ toString limit ++ " bytes."

end Groupwise.Pattern
