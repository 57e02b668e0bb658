import Groupwise.Lucene.Basic
import Groupwise.Text.Letter
import Groupwise.Text.Quoted
import Groupwise.Text.Scan

/-!
# Reading index queries

```text
query   := and (("OR" | blanks) and)*
and     := unary ("AND" unary)*
unary   := ("NOT" | "-") unary | "(" query ")" | clause
clause  := field ":" (term | "quoted term" | "[" low "TO" high ("]" | "}"))
```
-/
namespace Groupwise.Lucene

open Scanner

def isFieldChar (c : Char) : Bool :=
  Text.letters.contains c || Text.numerals.contains c || c = '_' || c = '.'

def isBareChar (c : Char) : Bool :=
  !Text.blanks.contains c && c != '(' && c != ')' && c != '"'

def isBoundChar (c : Char) : Bool := !Text.blanks.contains c && c != ']' && c != '\x7d'

def spaces1 : Scanner Unit := fun cs => (run1 isSpace cs).map fun r => ((), r.2)

def skipSpaces (cs : List Char) : List Char := (run isSpace cs).2

/-- Text between double quotes, which cannot be escaped. -/
def readQuoted : Scanner String
  | '"' :: cs =>
    match run (· != '"') cs with
    | (text, '"' :: rest) => some (String.ofList text, rest)
    | _ => none
  | _ => none

def readBare : Scanner String := fun cs =>
  (run1 isBareChar cs).map fun r => (String.ofList r.1, r.2)

def readBound : Scanner String :=
  orElse readQuoted fun cs => (run1 isBoundChar cs).map fun r => (String.ofList r.1, r.2)

/-- A word between blanks. -/
def spacedWord (w : Scanner Unit) : Scanner Unit := fun cs => do
  let (_, cs) ← spaces1 cs
  let (_, cs) ← w cs
  spaces1 cs

/-- The bounds of a range, and whether it includes the upper one. -/
def readRange : Scanner (String × String × Bool) := fun cs => do
  let (_, cs) ← char '[' cs
  let (lower, cs) ← readBound (skipSpaces cs)
  let (_, cs) ← spacedWord (word ['T', 'O']) cs
  let (upper, cs) ← readBound cs
  match skipSpaces cs with
  | ']' :: rest => some ((lower, upper, true), rest)
  | '\x7d' :: rest => some ((lower, upper, false), rest)
  | _ => none

def readClause : Scanner Query := fun cs => do
  let (field, cs) ← run1 isFieldChar cs
  let (_, cs) ← char ':' cs
  let field := String.ofList field
  match readRange cs with
  | some ((lower, upper, inclusive), rest) => some (.range field lower upper inclusive, rest)
  | none => (orElse readQuoted readBare cs).map fun r => (.term field r.1, r.2)

/-- Several operands are joined, a single one stands for itself. -/
def join (make : List Query → Query) (first : Query) (rest : List Query) : Query :=
  if rest.isEmpty then first else make (first :: rest)

/-- Operands joined by "and". -/
def readAnd (unary : Scanner Query) : Scanner Query := fun cs => do
  let (first, cs) ← unary cs
  let next : Scanner Query := fun cs => do
    let (_, cs) ← spacedWord (wordIgnoringCase ['A', 'N', 'D']) cs
    unary cs
  let (rest, cs) := many next cs.length cs
  some (join .and first rest, cs)

/-- Operands joined by "or" or by blanks alone. -/
def readOr (unary : Scanner Query) : Scanner Query := fun cs => do
  let (first, cs) ← readAnd unary cs
  let next : Scanner Query := fun cs => do
    let (_, cs) ← orElse (spacedWord (wordIgnoringCase ['O', 'R'])) spaces1 cs
    readAnd unary cs
  let (rest, cs) := many next cs.length cs
  some (join .or first rest, cs)

def readNot (unary : Scanner Query) : Scanner Query := fun cs => do
  let (_, cs) ← wordIgnoringCase ['N', 'O', 'T'] cs
  let (_, cs) ← spaces1 cs
  let (q, cs) ← unary cs
  some (.not q, cs)

def readMinus (unary : Scanner Query) : Scanner Query := fun cs => do
  let (_, cs) ← char '-' cs
  let (q, cs) ← unary cs
  some (.not q, cs)

def readGroup (unary : Scanner Query) : Scanner Query := fun cs => do
  let (_, cs) ← char '(' cs
  let (q, cs) ← readOr unary (skipSpaces cs)
  let (_, cs) ← char ')' (skipSpaces cs)
  some (q, cs)

/-- An operand; each negation and each parenthesis takes one unit of fuel. -/
def readUnary : Nat → Scanner Query
  | 0, _ => none
  | fuel + 1, cs =>
    orElse (readNot (readUnary fuel))
      (orElse (readMinus (readUnary fuel)) (orElse (readGroup (readUnary fuel)) readClause)) cs

/-- What is missing in a text that does not start with an operand. -/
inductive Missing where
  /-- The name of a field or the term behind it. -/
  | word
  | colon
  deriving Repr, DecidableEq

def Missing.name : Missing → String
  | .word => "TakeWhile1"
  | .colon => "Char"

/-- What is missing for a clause at the start of a text, and the text where it should stand. -/
def missing (cs : List Char) : Missing × List Char :=
  match run isFieldChar cs with
  | ([], _) => (.word, cs)
  | (_, ':' :: rest) => (.word, rest)
  | (_, rest) => (.colon, rest)

/-- Why a text is no index query. -/
def invalidQuery (cs : List Char) : String :=
  let (what, rest) := missing cs
  "Invalid lucene query '" ++ String.ofList cs ++ "': Error(Error \x7b input: " ++
    Text.quoted (String.ofList rest) ++ ", code: " ++ what.name ++ " \x7d)"

/-- Read a whole text as an index query. -/
def Query.parse (text : String) : CompileM Query :=
  let cs := Text.trim text.toList
  match readOr (readUnary (cs.length + 1)) cs with
  | none => .error (.parse (invalidQuery cs))
  | some (q, rest) =>
    match Text.trim rest with
    | [] => .ok q
    | rest =>
      .error (.parse ("Unexpected input after lucene query: '" ++ String.ofList rest ++ "'"))

end Groupwise.Lucene
