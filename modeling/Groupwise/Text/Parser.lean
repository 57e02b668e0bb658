import Groupwise.Text.Scan

/-!
# Parsers

A parser takes the characters that are left and gives a value with the characters after it. When it
fails it says where: by the characters that were left at that place. A choice between parsers fails
where its last one does.
-/
namespace Groupwise

abbrev Parser (α : Type) := StateT (List Char) (Except (List Char)) α

namespace Parser

variable {α β : Type}

def fail : Parser α := fun cs => .error cs

def orElse (p q : Parser α) : Parser α := fun cs =>
  match p cs with
  | .ok r => .ok r
  | .error _ => q cs

def choice : List (Parser α) → Parser α
  | [] => fail
  | [p] => p
  | p :: rest => orElse p (choice rest)

def optional (p : Parser α) : Parser (Option α) := fun cs =>
  match p cs with
  | .ok (a, rest) => .ok (some a, rest)
  | .error _ => .ok (none, cs)

/-- Any number of values; `fuel` bounds their number. -/
def manyUpTo (p : Parser α) : Nat → List Char → List α × List Char
  | 0, cs => ([], cs)
  | fuel + 1, cs =>
    match p cs with
    | .error _ => ([], cs)
    | .ok (a, rest) =>
      let (more, rest) := manyUpTo p fuel rest
      (a :: more, rest)

/-- Any number of values, each of which takes at least one character. -/
def many (p : Parser α) : Parser (List α) := fun cs => .ok (manyUpTo p cs.length cs)

/-- One value or more with a separator between them. -/
def separated (separator : Parser Unit) (p : Parser α) : Parser (List α) := do
  let first ← p
  let rest ← many (do separator; p)
  pure (first :: rest)

/-- Go on only if a parser fails here. -/
def absent (p : Parser α) : Parser Unit := fun cs =>
  match p cs with
  | .ok _ => .error cs
  | .error _ => .ok ((), cs)

def satisfy (p : Char → Bool) : Parser Char := fun cs =>
  match cs with
  | c :: rest => if p c then .ok (c, rest) else .error cs
  | [] => .error cs

def char (c : Char) : Parser Unit := do
  let _ ← satisfy (· = c)

def run (p : Char → Bool) : Parser (List Char) := fun cs =>
  .ok (cs.takeWhile p, cs.dropWhile p)

def run1 (p : Char → Bool) : Parser (List Char) := fun cs =>
  match cs.takeWhile p with
  | [] => .error cs
  | found => .ok (found, cs.dropWhile p)

/-- A run of exactly so many characters of a class; more of them may follow. -/
def exactly (count : Nat) (p : Char → Bool) : Parser (List Char) := fun cs =>
  let found := cs.take count
  if found.length == count && found.all p then .ok (found, cs.drop count) else .error cs

/-- Spaces, tabulators and line breaks. -/
def spaces : Parser Unit := fun cs => .ok ((), cs.dropWhile Scanner.isSpace)

def text (t : String) : Parser Unit := fun cs =>
  match Scanner.word t.toList cs with
  | some r => .ok r
  | none => .error cs

def textIgnoringCase (t : String) : Parser Unit := fun cs =>
  match Scanner.wordIgnoringCase t.toList cs with
  | some r => .ok r
  | none => .error cs

/-- What a function makes of a value; where it makes nothing, the parser fails at its start. -/
def mapOption (p : Parser α) (f : α → Option β) : Parser β := fun cs =>
  match p cs with
  | .error e => .error e
  | .ok (a, rest) =>
    match f a with
    | some b => .ok (b, rest)
    | none => .error cs

def filter (p : Parser α) (q : α → Bool) : Parser α :=
  mapOption p fun a => if q a then some a else none

end Parser

end Groupwise
