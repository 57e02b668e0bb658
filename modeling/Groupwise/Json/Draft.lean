import Groupwise.Json.Basic

/-!
# Drafts

A draft is a document as far as a text can be read. It ends at the first place where the text is no
document, and what was open there is not closed. Whoever looks for something in a draft can tell
whether it is missing or whether the text breaks off before it.
-/
namespace Groupwise.Json

inductive Draft where
  /-- No value, or one that cannot be represented. -/
  | malformed
  | null
  | bool (value : Bool)
  | int (value : Int)
  | float (value : Float)
  | string (value : String)
  | array (items : List Draft) (closed : Bool)
  /-- Members whose names cannot be represented have none. -/
  | object (members : List (Option String × Draft)) (closed : Bool)

namespace Draft

mutual

/-- A document is a draft that is complete. -/
def ofJson : Json → Draft
  | .null => .null
  | .bool b => .bool b
  | .int n => .int n
  | .float x => .float x
  | .string s => .string s
  | .array items => .array (ofItems items) true
  | .object members => .object (ofMembers members) true

def ofItems : List Json → List Draft
  | [] => []
  | item :: rest => ofJson item :: ofItems rest

def ofMembers : List (String × Json) → List (Option String × Draft)
  | [] => []
  | (name, value) :: rest => (some name, ofJson value) :: ofMembers rest

end

mutual

/-- The document of a draft that is complete. -/
def toJson? : Draft → Option Json
  | .malformed => none
  | .null => some .null
  | .bool b => some (.bool b)
  | .int n => some (.int n)
  | .float x => some (.float x)
  | .string s => some (.string s)
  | .array items closed => if closed then (toItems? items).map .array else none
  | .object members closed => if closed then (toMembers? members).map .object else none

def toItems? : List Draft → Option (List Json)
  | [] => some []
  | item :: rest => do some ((← toJson? item) :: (← toItems? rest))

def toMembers? : List (Option String × Draft) → Option (List (String × Json))
  | [] => some []
  | (none, _) :: _ => none
  | (some name, value) :: rest => do some ((name, ← toJson? value) :: (← toMembers? rest))

end

mutual

/-- Nothing of a document is lost in its draft. -/
theorem toJson?_ofJson (j : Json) : toJson? (ofJson j) = some j := by
  cases j with
  | array items => simp [ofJson, toJson?, toItems?_ofItems items]
  | object members => simp [ofJson, toJson?, toMembers?_ofMembers members]
  | _ => simp [ofJson, toJson?]

theorem toItems?_ofItems (items : List Json) : toItems? (ofItems items) = some items := by
  cases items with
  | nil => simp [ofItems, toItems?]
  | cons item rest => simp [ofItems, toItems?, toJson?_ofJson item, toItems?_ofItems rest]

theorem toMembers?_ofMembers (members : List (String × Json)) :
    toMembers? (ofMembers members) = some members := by
  cases members with
  | nil => simp [ofMembers, toMembers?]
  | cons member rest =>
    obtain ⟨name, value⟩ := member
    simp [ofMembers, toMembers?, toJson?_ofJson value, toMembers?_ofMembers rest]

end

end Draft

end Groupwise.Json
