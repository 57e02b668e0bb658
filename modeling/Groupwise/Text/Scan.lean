import Groupwise.Text.CodePoint

/-!
# Scanning text

A scanner takes the characters that are left and gives a value with the characters after it, or
nothing when what it looks for is not there.
-/
namespace Groupwise

abbrev Scanner (α : Type) := List Char → Option (α × List Char)

namespace Scanner

variable {α β : Type}

/-- Any number of values; `fuel` bounds their number. -/
def many (item : Scanner α) : Nat → List Char → List α × List Char
  | 0, cs => ([], cs)
  | fuel + 1, cs =>
    match item cs with
    | none => ([], cs)
    | some (a, rest) =>
      let (more, rest) := many item fuel rest
      (a :: more, rest)

def orElse (p q : Scanner α) : Scanner α := fun cs =>
  match p cs with
  | some r => some r
  | none => q cs

def char (c : Char) : Scanner Unit
  | d :: rest => if d = c then some ((), rest) else none
  | [] => none

def word : List Char → Scanner Unit
  | [], cs => some ((), cs)
  | c :: more, d :: rest => if d = c then word more rest else none
  | _ :: _, [] => none

/-- A given word in any case of the letters A to Z. -/
def wordIgnoringCase : List Char → Scanner Unit
  | [], cs => some ((), cs)
  | c :: more, d :: rest => if d.toLower = c.toLower then wordIgnoringCase more rest else none
  | _ :: _, [] => none

def run (p : Char → Bool) (cs : List Char) : List Char × List Char :=
  (cs.takeWhile p, cs.dropWhile p)

/-- The longest run of characters of a class, which must not be empty. -/
def run1 (p : Char → Bool) : Scanner (List Char) := fun cs =>
  match run p cs with
  | ([], _) => none
  | found => some found

def isSpace (c : Char) : Bool := c = ' ' || c = '\t' || c = '\r' || c = '\n'

end Scanner

namespace Text

/-- Text without the blanks at both its ends. -/
def trim (cs : List Char) : List Char :=
  ((cs.dropWhile blanks.contains).reverse.dropWhile blanks.contains).reverse

end Text

end Groupwise
