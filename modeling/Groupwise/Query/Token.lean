import Groupwise.Names
import Groupwise.Query.Basic
import Groupwise.Text.Letter
import Groupwise.Text.Parser

/-!
# Tokens of queries

Words, names, numbers, quoted texts and operators. Every token may have blanks before it.
-/
namespace Groupwise.Query.Grammar

open Groupwise.Parser

/-- The words that are no names unless they stand between back-quotes. -/
def reservedWords : List String :=
  ["FROM", "WHERE", "GROUP", "BY", "SELECT", "LIMIT", "AND", "OR", "NOT", "IN", "AS", "HAVING",
    "WITH", "DEFAULT", "IF", "THEN", "ELSE", "ALIASING", "TOP", "BOTTOM"]

def isReserved (word : String) : Bool := reservedWords.any (sameIgnoringCase · word)

def isNameChar (c : Char) : Bool :=
  Text.letters.contains c || Text.numerals.contains c || c = '_'

def isNameStart (c : Char) : Bool := Text.letters.contains c || c = '_'

def wordEnd : Parser Unit := absent (satisfy isNameChar)

/-- A word in any letter case that is not the start of a longer one. -/
def keyword (word : String) : Parser Unit := do
  spaces
  textIgnoringCase word
  wordEnd

def symbol (t : String) : Parser Unit := do
  spaces
  text t

def call (name : String) : Parser Unit := do
  spaces
  textIgnoringCase name
  spaces
  char '('

def callOf {α : Type} (name : String) (p : Parser α) : Parser α := do
  call name
  let a ← p
  symbol ")"
  pure a

def between {α : Type} (opening closing : String) (p : Parser α) : Parser α := do
  symbol opening
  let a ← p
  symbol closing
  pure a

def afterComma {α : Type} (p : Parser α) : Parser α := do
  symbol ","
  p

def after {α : Type} (word : String) (p : Parser α) : Parser α := do
  keyword word
  p

def commaSeparated {α : Type} (p : Parser α) : Parser (List α) := separated (symbol ",") p

/-- A word that can be a name. -/
def bareWord : Parser String := do
  let first ← satisfy isNameStart
  let rest ← run isNameChar
  pure (String.ofList (first :: rest))

def quotedName : Parser String := do
  char '`'
  let name ← run1 (· != '`')
  char '`'
  pure (String.ofList name)

/-- A name: a word that is not reserved, or anything between back-quotes. -/
def name : Parser String := do
  spaces
  orElse quotedName (bareWord.filter (!isReserved ·))

/-- A name, perhaps behind the name of a dataset and a point. -/
def scopedName : Parser ScopedName := do
  let first ← name
  match ← optional (do char '.'; name) with
  | some second => pure { scope := some first, name := second }
  | none => pure { name := first }

def digits : Parser (List Char) := run1 Char.isDigit

/-- An unsigned number below a bound. -/
def natBelow (bound : Nat) : Parser Nat := do
  spaces
  digits.mapOption fun ds =>
    let n := Decimal.digitsValue ds
    if n < bound then some n else none

def limitNumber : Parser Nat := natBelow UInt64.size

def smallNumber : Parser Nat := natBelow UInt32.size

/-- A minus sign if there is one here. -/
def sign : Parser Bool := do
  pure (← optional (char '-')).isSome

def signed : Parser (Bool × List Char) := do
  let negative ← sign
  pure (negative, ← digits)

def integer : Parser Int64 := do
  spaces
  signed.mapOption fun (negative, ds) =>
    let n : Int := Decimal.digitsValue ds
    Arithmetic.fit (if negative then -n else n)

/-- A number without a sign that is not the start of a word. -/
def plainInteger : Parser Int64 := do
  spaces
  let n ← digits.mapOption fun ds => Arithmetic.fit (Decimal.digitsValue ds)
  wordEnd
  pure n

/-- A decimal number that is not the start of a word. -/
def decimal : Parser Float := do
  spaces
  let (negative, whole) ← signed
  let fraction := (← optional (do char '.'; digits)).getD []
  wordEnd
  pure (Decimal.toFloat negative (Decimal.digitsValue (whole ++ fraction)) (-fraction.length))

/-- The rest of a text behind its opening quote. A backslash keeps the next character, where `n` and
`t` stand for a line break and a tabulator. -/
def quotedRest (quote : Char) : List Char → List Char → Option (String × List Char)
  | [], _ => none
  | c :: rest, out =>
    if c = quote then some (String.ofList out.reverse, rest)
    else if c = '\\' then
      match rest with
      | [] => none
      | e :: rest =>
        quotedRest quote rest ((if e = 'n' then '\n' else if e = 't' then '\t' else e) :: out)
    else quotedRest quote rest (c :: out)

def quotedBy (quote : Char) : Parser String := fun cs =>
  match cs with
  | c :: rest =>
    if c = quote then (quotedRest quote rest []).elim (.error cs) .ok else .error cs
  | [] => .error cs

def quotedText : Parser String := do
  spaces
  orElse (quotedBy '"') (quotedBy '\'')

def isTermChar (c : Char) : Bool := isNameChar c || c = '.' || c = '-'

def bareTerm : Parser Term := do
  let word ← ((String.ofList ·) <$> run1 isTermChar).filter (!isReserved ·)
  pure (Term.parse word)

/-- A term: quoted ones are texts, bare words may be integers. -/
def term : Parser Term := do
  spaces
  orElse (Term.string <$> quotedText) bareTerm

def termList : Parser (List Term) :=
  between "(" ")" (do pure ((← optional (commaSeparated term)).getD []))

/-- The first symbol of a list that stands here, with its meaning. -/
def firstSymbol {α : Type} (table : List (String × α)) : Parser α :=
  choice (table.map fun e => do symbol e.1; pure e.2)

def comparison : Parser Comparison :=
  firstSymbol [("<=", .lte), ("<>", .ne), (">=", .gte), ("!=", .ne), ("==", .eq), ("=", .eq),
    ("<", .lt), (">", .gt)]

def operator {α : Type} (meaning : Char → Option α) : Parser α := do
  spaces
  (satisfy fun _ => true).mapOption meaning

/-- Operands joined from the left by operators of one level. -/
def joined {α β : Type} (meaning : Char → Option β) (join : β → α → α → α) (p : Parser α) :
    Parser α := do
  let first ← p
  let rest ← many (do
    let op ← operator meaning
    pure (op, ← p))
  pure (rest.foldl (fun left e => join e.1 left e.2) first)

/-- Operands with a word between them, as a list if there are several. -/
def joinedBy {α : Type} (word : String) (make : List α → α) (p : Parser α) : Parser α := do
  let first ← p
  match ← many (after word p) with
  | [] => pure first
  | rest => pure (make (first :: rest))

end Groupwise.Query.Grammar
