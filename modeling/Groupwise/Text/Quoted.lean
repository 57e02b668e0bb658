import Groupwise.Text.Unprintable

/-!
# Quoted text

Structural listings write text between quotes. A backslash and the enclosing quote are escaped,
the common controls have short escapes, every other character without a visible form is written by
its number, and all the rest stands for itself.
-/
namespace Groupwise.Text

/-- A number in lower-case hexadecimal digits, without leading zeros. -/
def hexadecimal (n : Nat) : String := String.ofList (Nat.toDigits 16 n)

/-- One character inside quotes of the kind `quote`. -/
def quotedChar (quote c : Char) : String :=
  if c = '\x00' then "\\0"
  else if c = '\t' then "\\t"
  else if c = '\r' then "\\r"
  else if c = '\n' then "\\n"
  else if c = '\\' then "\\\\"
  else if c = quote then "\\" ++ c.toString
  else if unprintable.contains c then "\\u\x7b" ++ hexadecimal c.toNat ++ "\x7d"
  else c.toString

def quoted (text : String) : String :=
  text.foldl (fun out c => out ++ quotedChar '"' c) "\"" ++ "\""

def quotedSingle (c : Char) : String :=
  "'" ++ quotedChar '\'' c ++ "'"

end Groupwise.Text
