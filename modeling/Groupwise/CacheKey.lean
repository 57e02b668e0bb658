import Groupwise.Plan

/-!
# Cache keys

Two compilations that lead to the same output share a cache key. The key is the checksum of all that
the output depends on, written part by part with a zero byte behind each part. The checksum is the
cyclic redundancy check of 32 bits in its usual form: bits enter lowest first, and the register
starts and ends inverted.
-/
namespace Groupwise

namespace Checksum

/-- The generator polynomial with the lowest bit first. -/
def polynomial : UInt32 := 0xEDB88320

def shift (state : UInt32) : UInt32 :=
  if state &&& 1 == 1 then (state >>> 1) ^^^ polynomial else state >>> 1

def step (state : UInt32) (byte : UInt8) : UInt32 :=
  shift (shift (shift (shift (shift (shift (shift (shift (state ^^^ byte.toUInt32))))))))

def ofBytes (bytes : List UInt8) : UInt32 := bytes.foldl step 0xFFFFFFFF ^^^ 0xFFFFFFFF

def hex (sum : UInt32) : String :=
  let digits := Nat.toDigits 16 sum.toNat
  String.ofList (List.replicate (8 - digits.length) '0' ++ digits)

end Checksum

def version : String := "0.1.0"

/-- A dataset as a cache key sees it. -/
structure SourceRange where
  name : String
  start : Option String := none
  finish : Option String := none
  fieldAliases : Dictionary String := []
  deriving Repr, DecidableEq, Inhabited

def Source.range (s : Source) : SourceRange where
  name := s.dataset
  start := s.start.map (·.write)
  finish := s.finish.map (·.write)
  fieldAliases := s.fieldAliases

/-- All that the output of a query depends on. -/
structure CacheInput where
  commands : String
  ranges : List SourceRange := []
  options : List String := []
  rowLimit : Option Nat := none
  isLegacy : Bool := false
  resultFormat : String
  deriving Repr, DecidableEq, Inhabited

namespace CacheInput

def rangeParts (r : SourceRange) : List String :=
  [r.name, r.start.getD "", r.finish.getD ""] ++ List.flatMap (fun e => [e.1, e.2]) r.fieldAliases

/-- The parts in the order in which they enter the checksum. The order of the options is
immaterial. -/
def parts (c : CacheInput) : List String :=
  [version, if c.isLegacy then "legacy" else "jql", c.resultFormat, c.commands] ++
    c.ranges.flatMap rangeParts ++ c.options.mergeSort (fun a b => !decide (b < a)) ++
    [(c.rowLimit.map fun n : Nat => toString n).getD ""]

/-- A part with the zero byte that ends it. -/
def framePart (part : String) : List UInt8 := part.toList.flatMap String.utf8EncodeChar ++ [0]

def frame (c : CacheInput) : List UInt8 := c.parts.flatMap framePart

end CacheInput

/-- Under what name the output of a query is kept. -/
structure CacheKey where
  hash : UInt32
  fileName : String
  deriving Repr, DecidableEq, Inhabited

namespace CacheKey

def ofInput (c : CacheInput) : CacheKey :=
  let hash := Checksum.ofBytes c.frame
  { hash, fileName := "JQL-" ++ Checksum.hex hash ++ "." ++ c.resultFormat }

def toJson (k : CacheKey) : Json :=
  .object [("hash", .string (Checksum.hex k.hash)), ("file_name", .string k.fileName)]

end CacheKey

end Groupwise
