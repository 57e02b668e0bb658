import Groupwise.Names
import Groupwise.Text.Scan

/-!
# Media types

A media type has a kind and a name, and the name may end in a suffix behind a plus sign, which says
on what format it builds. Parameters may follow; they must be well formed and are ignored.
-/
namespace Groupwise.Service

structure MediaType where
  kind : String
  name : String
  suffix : Option String := none
  deriving Repr, DecidableEq, Inhabited

namespace MediaType

def isWordChar (c : Char) : Bool := c.isAlphanum || "!#$%&'*+-.^_`|~".contains c

def isQuotedChar (c : Char) : Bool := ' ' ≤ c && c ≤ '~'

/-- The name and the suffix in a word. A plus sign in front is part of the name. -/
def splitSuffix (word : List Char) : List Char × Option (List Char) :=
  match word.reverse.dropWhile (· ≠ '+') with
  | _ :: front :: more =>
    ((front :: more).reverse, some (word.reverse.takeWhile (· ≠ '+')).reverse)
  | _ => (word, none)

/-- The end of a parameter, which leads to the next one. -/
def afterValue : List Char → Option (List Char)
  | [] => some []
  | ';' :: rest => some rest
  | _ => none

def parameter (cs : List Char) : Option (List Char) := do
  let (_, rest) ← Scanner.run1 isWordChar cs
  let ((), rest) ← Scanner.char '=' rest
  match rest with
  | [] => some []
  | '"' :: c :: rest =>
    let (_, rest) := Scanner.run (fun c => isQuotedChar c && c ≠ '"') rest
    let ((), rest) ← Scanner.char '"' rest
    if isQuotedChar c then afterValue (rest.dropWhile (· = ' ')) else none
  | rest => do
    let (_, rest) ← Scanner.run1 isWordChar rest
    afterValue rest

/-- Whether all parameters are well formed; the fuel is the number of characters. -/
def areParameters : Nat → List Char → Bool
  | 0, _ => false
  | fuel + 1, cs =>
    match cs.dropWhile (· = ' ') with
    | [] => true
    | c :: rest => (parameter (c :: rest)).any (areParameters fuel)

def read? (text : String) : Option MediaType := do
  let (kind, rest) ← Scanner.run1 isWordChar text.toList
  let ((), rest) ← Scanner.char '/' rest
  let (word, rest) := Scanner.run isWordChar rest
  let (name, suffix) := splitSuffix word
  let found : MediaType :=
    { kind := String.ofList kind, name := String.ofList name, suffix := suffix.map String.ofList }
  match rest with
  | [] => some found
  | ';' :: rest =>
    if !word.isEmpty && areParameters (rest.length + 1) rest then some found else none
  | _ => none

/-- Whether a body of this type is a data document. -/
def isDocument (m : MediaType) : Bool :=
  sameIgnoringCase m.kind "application" &&
    (sameIgnoringCase m.name "json" || m.suffix.any (sameIgnoringCase · "json"))

end MediaType

end Groupwise.Service
