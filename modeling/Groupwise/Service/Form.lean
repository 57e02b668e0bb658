import Groupwise.Json.Reader

/-!
# Form fields

The query of an address holds named values. Plus signs stand for blanks, and bytes may be given by
two hexadecimal digits behind a percent sign. Bytes that do not encode a character are replaced:
each longest beginning of an encoding that is not completed, and each byte that begins none, gives
one replacement character.
-/

namespace Groupwise.Text.Utf8

/-- An encoding that has begun: its bits so far, how many bytes are missing, and the range of the
next byte. -/
structure Partial where
  bits : Nat
  missing : Nat
  least : Nat := 0x80
  greatest : Nat := 0xBF

def replacement : Char := '\ufffd'

/-- Take a byte that begins a character. -/
def start (byte : Nat) : List Char × Option Partial :=
  if byte < 0x80 then ([Char.ofNat byte], none)
  else if byte < 0xC2 then ([replacement], none)
  else if byte < 0xE0 then ([], some { bits := byte - 0xC0, missing := 1 })
  else if byte == 0xE0 then ([], some { bits := 0, missing := 2, least := 0xA0 })
  else if byte == 0xED then ([], some { bits := 0xD, missing := 2, greatest := 0x9F })
  else if byte < 0xF0 then ([], some { bits := byte - 0xE0, missing := 2 })
  else if byte == 0xF0 then ([], some { bits := 0, missing := 3, least := 0x90 })
  else if byte < 0xF4 then ([], some { bits := byte - 0xF0, missing := 3 })
  else if byte == 0xF4 then ([], some { bits := 4, missing := 3, greatest := 0x8F })
  else ([replacement], none)

def step (pending : Option Partial) (byte : Nat) : List Char × Option Partial :=
  match pending with
  | none => start byte
  | some p =>
    if p.least ≤ byte && byte ≤ p.greatest then
      let bits := p.bits * 64 + (byte - 0x80)
      if p.missing ≤ 1 then ([Char.ofNat bits], none)
      else ([], some { bits, missing := p.missing - 1 })
    else
      let (chars, pending) := start byte
      (replacement :: chars, pending)

def decodeFrom (pending : Option Partial) : List UInt8 → List Char
  | [] => if pending.isSome then [replacement] else []
  | byte :: rest =>
    let (chars, pending) := step pending byte.toNat
    chars ++ decodeFrom pending rest

def decode (bytes : List UInt8) : List Char := decodeFrom none bytes

end Groupwise.Text.Utf8

namespace Groupwise.Service.Form

/-- The bytes that are meant. A percent sign without two digits stands for itself. -/
def bytes : List Char → List UInt8
  | '%' :: a :: b :: rest =>
    match Json.hexDigit? a, Json.hexDigit? b with
    | some high, some low => UInt8.ofNat (high * 16 + low) :: bytes rest
    | _, _ => 0x25 :: bytes (a :: b :: rest)
  | '+' :: rest => 0x20 :: bytes rest
  | c :: rest => String.utf8EncodeChar c ++ bytes rest
  | [] => []
  termination_by cs => cs.length

def text (cs : List Char) : String := String.ofList (Text.Utf8.decode (bytes cs))

def split (separator : Char) : List Char → List (List Char)
  | [] => [[]]
  | c :: rest =>
    if c = separator then [] :: split separator rest
    else match split separator rest with
      | part :: more => (c :: part) :: more
      | [] => [[c]]

def field (cs : List Char) : String × String :=
  (text (cs.takeWhile (· ≠ '=')), text ((cs.dropWhile (· ≠ '=')).drop 1))

def fields (query : String) : List (String × String) :=
  ((split '&' query.toList).filter (!·.isEmpty)).map field

/-- The value of a field that must be given exactly once. -/
def only? (name : String) (query : String) : Option String :=
  match (fields query).filter (·.1 == name) with
  | [(_, value)] => some value
  | _ => none

end Groupwise.Service.Form
