import Groupwise.Decimal.Layout
import Groupwise.Text.Quoted

/-!
# Data documents

A document is a JSON tree. Objects keep their members in the order in which they were given, since
documents are also hashed and compared as text.
-/
namespace Groupwise

inductive Json where
  | null
  | bool (value : Bool)
  | int (value : Int)
  | float (value : Float)
  | string (value : String)
  | array (items : List Json)
  | object (members : List (String × Json))

namespace Json

def nat (n : Nat) : Json := .int n

def int64 (n : Int64) : Json := .int n.toInt

def option {α : Type} (f : α → Json) : Option α → Json
  | none => .null
  | some a => f a

def list {α : Type} (f : α → Json) (items : List α) : Json := .array (items.map f)

def strings (items : List String) : Json := list .string items

/-- An object whose members are the entries of a map. -/
def dictionary {α : Type} (f : α → Json) (entries : List (String × α)) : Json :=
  .object (entries.map fun e => (e.1, f e.2))

/-- A member that is left out when it has no value. -/
def optionalMember {α : Type} (name : String) (f : α → Json) : Option α → List (String × Json)
  | none => []
  | some a => [(name, f a)]

/-- The value of a member, null if there is none. -/
def get (name : String) : Json → Json
  | .object members => (members.find? (·.1 == name)).elim .null (·.2)
  | _ => .null

def isNull : Json → Bool
  | .null => true
  | _ => false

/-- One character inside a string of a document. -/
def escapedChar (c : Char) : String :=
  if c = '"' then "\\\""
  else if c = '\\' then "\\\\"
  else if c = '\n' then "\\n"
  else if c = '\r' then "\\r"
  else if c = '\t' then "\\t"
  else if c = '\x08' then "\\b"
  else if c = '\x0c' then "\\f"
  else if c.toNat < 0x20 then
    "\\u00" ++ (if c.toNat < 0x10 then "0" else "") ++ Text.hexadecimal c.toNat
  else c.toString

def quoted (text : String) : String :=
  text.foldl (fun out c => out ++ escapedChar c) "\"" ++ "\""

mutual

/-- The document without any blanks. -/
def compact : Json → String
  | .null => "null"
  | .bool b => if b then "true" else "false"
  | .int n => toString n
  | .float x => Decimal.Layout.document.write x
  | .string s => quoted s
  | .array items => "[" ++ compactItems true items ++ "]"
  | .object members => "\x7b" ++ compactMembers true members ++ "\x7d"

def compactItems (first : Bool) : List Json → String
  | [] => ""
  | item :: rest => (if first then "" else ",") ++ compact item ++ compactItems false rest

def compactMembers (first : Bool) : List (String × Json) → String
  | [] => ""
  | (name, value) :: rest =>
    (if first then "" else ",") ++ quoted name ++ ":" ++ compact value ++ compactMembers false rest

end

mutual

/-- The document with one item or member on each line, indented by two spaces. -/
def indented (margin : String) : Json → String
  | .array [] => "[]"
  | .array (item :: items) =>
    "[\n" ++ indentedItems (margin ++ "  ") true (item :: items) ++ "\n" ++ margin ++ "]"
  | .object [] => "\x7b\x7d"
  | .object (member :: members) =>
    "\x7b\n" ++ indentedMembers (margin ++ "  ") true (member :: members) ++ "\n" ++ margin ++ "\x7d"
  | .null => "null"
  | .bool b => if b then "true" else "false"
  | .int n => toString n
  | .float x => Decimal.Layout.document.write x
  | .string s => quoted s

def indentedItems (margin : String) (first : Bool) : List Json → String
  | [] => ""
  | item :: rest =>
    (if first then "" else ",\n") ++ margin ++ indented margin item ++
      indentedItems margin false rest

def indentedMembers (margin : String) (first : Bool) : List (String × Json) → String
  | [] => ""
  | (name, value) :: rest =>
    (if first then "" else ",\n") ++ margin ++ quoted name ++ ": " ++ indented margin value ++
      indentedMembers margin false rest

end

end Json

end Groupwise
