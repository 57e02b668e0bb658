import Groupwise.Json.Reader

/-!
# Decoding documents

A decoder makes a value of a draft. It goes through the draft in the order of the text, so that the
first fault of the text is the one that counts. A record is an object whose unknown members are
ignored and whose known ones occur once at most. It may also be given as an array of its values in
order.
-/
namespace Groupwise.Json

/-- Why a text is refused. -/
inductive Fault where
  | malformed
  /-- It is not of the expected shape, up to the place where that can be seen. -/
  | unexpected
  deriving Repr, DecidableEq, Inhabited

abbrev Decoder (α : Type) := Draft → Except Fault α

namespace Decoder

variable {α σ : Type}

def refuse : Decoder α
  | .malformed => .error .malformed
  | _ => .error .unexpected

def string : Decoder String
  | .string s => .ok s
  | d => refuse d

def bool : Decoder Bool
  | .bool b => .ok b
  | d => refuse d

/-- A number without a fraction that is not below zero and below a bound. -/
def natBelow (bound : Nat) : Decoder Nat
  | .int n => if 0 ≤ n && n < bound then .ok n.toNat else .error .unexpected
  | d => refuse d

def intWithin (least greatest : Int) : Decoder Int
  | .int n => if least ≤ n && n ≤ greatest then .ok n else .error .unexpected
  | d => refuse d

def number : Decoder Float
  | .int n => .ok (Decimal.toFloat (n < 0) n.natAbs 0)
  | .float x => .ok x
  | d => refuse d

def reading (read? : String → Option α) : Decoder α := fun d => do
  match read? (← string d) with
  | some a => .ok a
  | none => .error .unexpected

/-- A value, or null in its place. -/
def optional (value : Decoder α) : Decoder (Option α)
  | .null => .ok none
  | d => some <$> value d

/-- Only what is closed counts as read. -/
def ifClosed (closed : Bool) (a : α) : Except Fault α :=
  if closed then .ok a else .error .malformed

def list (item : Decoder α) : Decoder (List α)
  | .array items closed => do ifClosed closed (← items.mapM item)
  | d => refuse d

def member (value : Decoder α) : Option String × Draft → Except Fault (String × α)
  | (none, _) => .error .malformed
  | (some name, d) => do pure (name, ← value d)

def dictionary (value : Decoder α) : Decoder (List (String × α))
  | .object members closed => do ifClosed closed (← members.mapM (member value))
  | d => refuse d

structure Part (σ : Type) where
  name : String
  isNeeded : Bool
  /-- Put a value of the part into the record. -/
  set : Draft → σ → Except Fault σ

def Part.optional (name : String) (value : Decoder α) (put : α → σ → σ) : Part σ where
  name
  isNeeded := false
  set d s := do pure (put (← value d) s)

def Part.needed (name : String) (value : Decoder α) (put : α → σ → σ) : Part σ :=
  { Part.optional name value put with isNeeded := true }

/-- Put members into a record. The parts that are still missing go along. -/
def setMembers (known : List String) :
    List (Part σ) → σ → List (Option String × Draft) → Except Fault (List (Part σ) × σ)
  | missing, s, [] => .ok (missing, s)
  | _, _, (none, _) :: _ => .error .malformed
  | missing, s, (some name, d) :: rest =>
    match missing.find? (·.name == name) with
    | some part => do
      setMembers known (missing.filter (·.name != name)) (← part.set d s) rest
    | none =>
      if known.contains name then .error .unexpected else setMembers known missing s rest

/-- Put values into a record in the order of its parts. The parts that are missing are returned. -/
def setItems : List (Part σ) → σ → List Draft → Except Fault (List (Part σ) × σ)
  | missing, s, [] => .ok (missing, s)
  | [], _, _ :: _ => .error .malformed
  | part :: missing, s, d :: rest => do setItems missing (← part.set d s) rest

/-- A record whose parts start with their defaults. -/
def record (start : σ) (parts : List (Part σ)) : Decoder σ := fun d => do
  let (closed, missing, s) ← match d with
    | .object members closed => do
      pure (closed, ← setMembers (parts.map Part.name) parts start members)
    | .array items closed => do pure (closed, ← setItems parts start items)
    | d => refuse d
  ifClosed closed ()
  if missing.any Part.isNeeded then .error .unexpected else pure s

def ofJson? (decode : Decoder α) (j : Json) : Option α := (decode (.ofJson j)).toOption

/-- Decode what stands at the start of a text, whatever follows it. -/
def ofStart (decode : Decoder α) (text : String) : Except Fault α := decode (readDraft text).1

def ofText? (decode : Decoder α) (text : String) : Option α :=
  match readDraft text with
  | (found, some rest) => if (skipBlanks rest).isEmpty then (decode found).toOption else none
  | (_, none) => none

end Decoder

end Groupwise.Json
