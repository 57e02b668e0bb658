import Groupwise.Error
import Groupwise.Query.Grammar

/-!
# Texts of queries

Whole texts of queries, metrics and filters. A text that cannot be read is reported with the line
and the column at which reading stopped, both counted from one.
-/
namespace Groupwise

/-- Why a text gives no compiled query. -/
inductive QueryError where
  | parse (line column : Nat) (reason : String)
  | compile (error : CompileError)
  deriving Repr, DecidableEq, Inhabited

def QueryError.message : QueryError → String
  | .parse line column reason =>
    "Parse error at line " ++ toString line ++ ", column " ++ toString column ++ ": " ++ reason
  | .compile error => error.message

namespace Query

/-- The line and the column behind some characters. -/
def lineColumn (before : List Char) : Nat × Nat :=
  (before.count '\n' + 1, (before.reverse.takeWhile (· != '\n')).length + 1)

/-- The characters of a text within its first bytes. -/
def firstBytes : Nat → List Char → List Char
  | _, [] => []
  | count, c :: rest =>
    if c.utf8Size ≤ count then c :: firstBytes (count - c.utf8Size) rest else []

/-- The start of the first line. -/
def snippet (cs : List Char) : String :=
  let line := cs.takeWhile (· != '\n')
  -- A carriage return belongs to the line break behind it.
  let line := if cs.length != line.length && line.getLast? == some '\r' then line.dropLast else line
  String.ofList (line.take 30)

/-- The report of a place in a text, given by what is left there. -/
def errorAt (text rest : List Char) : QueryError :=
  let rest := rest.dropWhile Text.blanks.contains
  let (line, column) := lineColumn (text.take (text.length - rest.length))
  .parse line column (if rest.isEmpty then "Unexpected end of query"
    else "Unexpected input: '" ++ snippet rest ++ "'")

/-- Read a whole text. -/
def readAll {α : Type} (p : Grammar.Nested → Parser α) (text : String) : Except QueryError α :=
  let cs := text.toList
  match p (Grammar.Nested.ofDepth (cs.length + 1)) cs with
  | .error rest => .error (errorAt cs rest)
  | .ok (a, rest) =>
    if rest.all Text.blanks.contains then .ok a else .error (errorAt cs rest)

def parse (text : String) : Except QueryError Query := readAll Grammar.query text

def DocMetric.parse (text : String) : Except QueryError DocMetric := readAll Grammar.docMetric text

def DocFilter.parse (text : String) : Except QueryError DocFilter := readAll Grammar.docFilter text

end Query

end Groupwise
